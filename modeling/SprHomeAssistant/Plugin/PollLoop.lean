import SprHomeAssistant.Library.Logs
import SprHomeAssistant.Library.Runs
import SprHomeAssistant.Plugin.Config
import SprHomeAssistant.Go.Values

/-! The poll loop: scheduled refreshes, and refreshes on request in between.

Any number of `requestRefresh` calls run beside the loop, its ticker and the passing of
time. A call completes at its select, which is the whole of its body. The refresh itself
is only its start and its end here.
-/

set_option autoImplicit false

namespace SprHomeAssistant.Plugin.PollLoop
open Go Library.Logs Library.Runs

def minEventInterval : Time := 2 * second

/-- Where the loop is between two of its statements. -/
inductive Position where
  | starting
  | refreshing
  /-- `refreshState` has returned and `last` is not set yet. -/
  | refreshed
  | selecting
  | received (eventDriven : Bool)
  /-- About to call `time.Sleep`. -/
  | pausing (remaining : Time)
  | sleeping (wake : Time)
  | draining
  | due (eventDriven : Bool)

/-- Between the select and the refresh that follows it. -/
def Position.leftSelect : Position → Bool
  | .received _ | .pausing _ | .sleeping _ | .draining | .due _ => true
  | .starting | .refreshing | .refreshed | .selecting => false

/-- `time.Ticker`. Its channel has room for one tick, and a tick that finds it full is dropped. -/
structure Ticker where
  interval : Time
  next : Time
  full : Bool

inductive Moment where
  | requested
  | started (eventDriven : Bool)
  | ended
  deriving DecidableEq

structure Loop where
  position : Position
  /-- Whether `gRefreshNow` holds a token. -/
  refreshNow : Bool
  ticker : Option Ticker
  last : Time
  clock : Time
  /-- What happened when. No step reads it. -/
  log : List (Time × Moment)

def Loop.start (clock : Time) : Loop := ⟨.starting, false, none, 0, clock, []⟩

inductive Action where
  | pass (elapsed : Nat)
  | requestRefresh
  | tick
  | receiveTick
  | receiveRefresh
  | advance

def Loop.record (loop : Loop) (moment : Moment) : Loop :=
  { loop with log := loop.log ++ [(loop.clock, moment)] }

def Loop.refreshState (loop : Loop) (eventDriven : Bool) : Loop :=
  { loop.record (.started eventDriven) with position := .refreshing }

def newTicker (config : Config) (now : Time) : Ticker :=
  let interval := config.pollIntervalSeconds * second
  ⟨interval, now + interval, false⟩

/-- The loop's next statement, for every statement but the select. -/
def Loop.advance (config : Config) (loop : Loop) : Loop :=
  match loop.position with
  | .starting => loop.refreshState false
  | .refreshing => { loop.record .ended with position := .refreshed }
  | .refreshed =>
      match loop.ticker with
      -- only the first refresh comes before the ticker
      | none => { loop with ticker := some (newTicker config loop.clock) }
      | some _ => { loop with last := loop.clock, position := .selecting }
  | .selecting => loop
  | .received false => { loop with position := .due false }
  | .received true =>
      let since := loop.clock - loop.last
      if since < minEventInterval then { loop with position := .pausing (minEventInterval - since) }
      else { loop with position := .due true }
  | .pausing remaining => { loop with position := .sleeping (loop.clock + remaining) }
  | .sleeping wake => if wake ≤ loop.clock then { loop with position := .draining } else loop
  | .draining => { loop with refreshNow := false, position := .due true }
  | .due eventDriven => loop.refreshState eventDriven

def Loop.tick (loop : Loop) : Loop :=
  match loop.ticker with
  | none => loop
  | some ticker =>
      if ticker.next ≤ loop.clock then
        { loop with ticker := some { ticker with next := ticker.next + ticker.interval, full := true } }
      else loop

def Loop.receiveTick (loop : Loop) : Loop :=
  match loop.position, loop.ticker with
  | .selecting, some ticker =>
      if ticker.full then
        { loop with ticker := some { ticker with full := false }, position := .received false }
      else loop
  | _, _ => loop

def Loop.receiveRefresh (loop : Loop) : Loop :=
  match loop.position with
  | .selecting =>
      if loop.refreshNow then { loop with refreshNow := false, position := .received true } else loop
  | _ => loop

/-- An action that is not enabled changes nothing. When both channels are ready the select
takes either. -/
def step (config : Config) (loop : Loop) : Action → Loop
  | .pass elapsed => { loop with clock := loop.clock + elapsed }
  | .requestRefresh => { loop.record .requested with refreshNow := true }
  | .tick => loop.tick
  | .receiveTick => loop.receiveTick
  | .receiveRefresh => loop.receiveRefresh
  | .advance => loop.advance config

/-! ## No request is lost, and refreshes on request keep their distance -/

/-- A request has come after the last refresh started. -/
def Outstanding (log : List (Time × Moment)) : Prop :=
  Since (fun e => e.2 = .requested) (fun e => ∃ eventDriven, e.2 = .started eventDriven) log

/-- The last refresh that ended did so at `ended`. -/
def LastEnded (log : List (Time × Moment)) (ended : Time) : Prop :=
  Since (· = (ended, .ended)) (fun e => e.2 = .ended) log

/-- A refresh on request starts late enough after the one before it. -/
def Spaced (log : List (Time × Moment)) (entry : Time × Moment) : Prop :=
  entry.2 = .started true → ∃ ended, LastEnded log ended ∧ ended + minEventInterval ≤ entry.1

structure Serves (loop : Loop) : Prop where
  outstanding : Outstanding loop.log → loop.refreshNow = true ∨ loop.position.leftSelect = true
  spaced : Always Spaced loop.log

/-- The last refresh had ended by now, and by `last` once that is set. -/
def Rested (clock last : Time) (log : List (Time × Moment)) : Position → Prop
  | .starting | .refreshing => True
  | .refreshed => ∃ ended, LastEnded log ended ∧ ended ≤ clock
  | .selecting | .received _ | .pausing _ | .sleeping _ | .draining | .due _ =>
      ∃ ended, LastEnded log ended ∧ ended ≤ last

/-- Before a refresh on request, what is left of the interval since `last` is waited for. -/
def Waits (clock last : Time) : Position → Prop
  | .pausing remaining => last + minEventInterval ≤ clock + remaining
  | .sleeping wake => last + minEventInterval ≤ wake
  | .draining | .due true => last + minEventInterval ≤ clock
  | _ => True

structure Inv (loop : Loop) : Prop extends Serves loop where
  rested : Rested loop.clock loop.last loop.log loop.position
  waits : Waits loop.clock loop.last loop.position

@[simp] theorem outstanding_concat (log : List (Time × Moment)) (when : Time) (moment : Moment) :
    Outstanding (log ++ [(when, moment)]) ↔
      moment = .requested ∨ Outstanding log ∧ ∀ eventDriven, moment ≠ .started eventDriven := by
  simp [Outstanding]

@[simp] theorem lastEnded_concat (log : List (Time × Moment)) (when ended : Time) (moment : Moment) :
    LastEnded (log ++ [(when, moment)]) ended ↔
      (when = ended ∧ moment = .ended) ∨ LastEnded log ended ∧ moment ≠ .ended := by
  simp [LastEnded]

theorem Rested.later {clock later last : Time} {log : List (Time × Moment)} {position : Position}
    (rested : Rested clock last log position) (passed : clock ≤ later) :
    Rested later last log position := by
  cases position with
  | refreshed =>
      obtain ⟨ended, recorded, before⟩ := rested
      exact ⟨ended, recorded, Int.le_trans before passed⟩
  | _ => exact rested

theorem Waits.later {clock later last : Time} {position : Position}
    (waits : Waits clock last position) (passed : clock ≤ later) : Waits later last position := by
  cases position with
  | pausing remaining => exact Int.le_trans waits (Int.add_le_add_right passed remaining)
  | draining => exact Int.le_trans waits passed
  | due eventDriven =>
      cases eventDriven with
      | false => trivial
      | true => exact Int.le_trans waits passed
  | _ => exact waits

/-- A request changes nothing of what the log says about refreshes that ended. -/
theorem Rested.request {clock last : Time} {log : List (Time × Moment)} {position : Position}
    (rested : Rested clock last log position) (when : Time) :
    Rested clock last (log ++ [(when, .requested)]) position := by
  cases position with
  | starting => trivial
  | refreshing => trivial
  | _ => simpa [Rested] using rested

theorem start_inv (clock : Time) : Inv (.start clock) where
  outstanding := by simp [Loop.start, Outstanding]
  spaced := by simp [Loop.start]
  rested := trivial
  waits := trivial

/-- The refresh that is due begins, at a distance if it was asked for. -/
theorem refreshState_inv {loop : Loop} (spaced : Always Spaced loop.log) {eventDriven : Bool}
    (distant : Spaced loop.log (loop.clock, .started eventDriven)) :
    Inv (loop.refreshState eventDriven) where
  outstanding := by simp [Loop.refreshState, Loop.record]
  spaced := always_concat.mpr ⟨spaced, distant⟩
  rested := trivial
  waits := trivial

/-- The end of a refresh is when the loop has rested since. -/
theorem ended_inv {loop : Loop} (inv : Inv loop) (refreshing : loop.position = .refreshing) :
    Inv { loop.record .ended with position := .refreshed } where
  outstanding := by
    have requested := inv.outstanding
    rw [refreshing] at requested
    simpa [Loop.record, Position.leftSelect] using requested
  spaced := by simp [Loop.record, Spaced, inv.spaced]
  rested := ⟨loop.clock, by simp [Loop.record], Int.le_refl _⟩
  waits := trivial

theorem remaining_closes (last clock interval : Int) :
    clock + (interval - (clock - last)) = last + interval := by omega

/-- A token taken in the select leads to a pause for what is left of the interval. -/
theorem received_inv {loop : Loop} (inv : Inv loop) (config : Config) {eventDriven : Bool}
    (received : loop.position = .received eventDriven) : Inv (loop.advance config) := by
  have rested := inv.rested
  rw [received] at rested
  cases eventDriven with
  | false =>
      simp only [Loop.advance, received]
      exact ⟨⟨fun _ => Or.inr rfl, inv.spaced⟩, rested, trivial⟩
  | true =>
      simp only [Loop.advance, received]
      split
      next short =>
        have closes := remaining_closes loop.last loop.clock minEventInterval
        exact ⟨⟨fun _ => Or.inr rfl, inv.spaced⟩, rested, Int.le_of_eq closes.symm⟩
      next elapsed =>
        have waited : loop.last + minEventInterval ≤ loop.clock :=
          Int.add_le_of_le_sub_left (Int.not_lt.mp elapsed)
        exact ⟨⟨fun _ => Or.inr rfl, inv.spaced⟩, rested, waited⟩

theorem advance_inv {loop : Loop} (inv : Inv loop) (config : Config) : Inv (loop.advance config) := by
  obtain ⟨position, refreshNow, ticker, last, clock, log⟩ := loop
  have ⟨⟨outstanding, spaced⟩, rested, waits⟩ := inv
  cases position with
  | starting => exact refreshState_inv spaced (by simp [Spaced])
  | refreshing => exact ended_inv inv rfl
  | refreshed =>
      cases ticker with
      | none => exact ⟨⟨outstanding, spaced⟩, rested, waits⟩
      | some ticker => exact ⟨⟨outstanding, spaced⟩, rested, trivial⟩
  | selecting => exact ⟨⟨outstanding, spaced⟩, rested, waits⟩
  | received eventDriven => exact received_inv inv config rfl
  | pausing remaining => exact ⟨⟨fun _ => Or.inr rfl, spaced⟩, rested, waits⟩
  | sleeping wake =>
      simp only [Loop.advance]
      split
      next woken =>
        have waited : last + minEventInterval ≤ clock := Int.le_trans waits woken
        exact ⟨⟨fun _ => Or.inr rfl, spaced⟩, rested, waited⟩
      next asleep => exact ⟨⟨fun _ => Or.inr rfl, spaced⟩, rested, waits⟩
  | draining => exact ⟨⟨fun _ => Or.inr rfl, spaced⟩, rested, waits⟩
  | due eventDriven =>
      refine refreshState_inv spaced fun driven => ?_
      obtain rfl : eventDriven = true := by simpa using driven
      obtain ⟨ended, recorded, before⟩ := rested
      exact ⟨ended, recorded, Int.le_trans (Int.add_le_add_right before minEventInterval) waits⟩

/-- Either channel takes the loop out of its select. -/
theorem selected_inv {loop : Loop} (inv : Inv loop) (selecting : loop.position = .selecting)
    (refreshNow : Bool) (ticker : Option Ticker) (eventDriven : Bool) :
    Inv { loop with refreshNow := refreshNow, ticker := ticker, position := .received eventDriven } := by
  have rested := inv.rested
  rw [selecting] at rested
  exact ⟨⟨fun _ => Or.inr rfl, inv.spaced⟩, rested, trivial⟩

theorem step_inv (config : Config) {loop : Loop} (inv : Inv loop) (action : Action) :
    Inv (step config loop action) := by
  cases action with
  | pass elapsed =>
      have passed : loop.clock ≤ loop.clock + elapsed := Int.le_add_of_nonneg_right (Int.natCast_nonneg _)
      exact ⟨⟨inv.outstanding, inv.spaced⟩, inv.rested.later passed, inv.waits.later passed⟩
  | requestRefresh =>
      have spaced : Always Spaced (loop.log ++ [(loop.clock, .requested)]) := by
        simp [inv.spaced, Spaced]
      exact ⟨⟨fun _ => Or.inl rfl, spaced⟩, inv.rested.request _, inv.waits⟩
  | tick =>
      simp only [step, Loop.tick]
      repeat' split
      all_goals exact ⟨⟨inv.outstanding, inv.spaced⟩, inv.rested, inv.waits⟩
  | receiveTick =>
      simp only [step, Loop.receiveTick]
      split
      next ticker selecting made =>
        split
        · exact selected_inv inv selecting _ _ false
        · exact inv
      next => exact inv
  | receiveRefresh =>
      simp only [step, Loop.receiveRefresh]
      split
      next selecting =>
        split
        · exact selected_inv inv selecting _ _ true
        · exact inv
      next => exact inv
  | advance => exact advance_inv inv config

/-! ## The log is what was requested, started and ended -/

def momentIn (t : Transition Loop Action) : Option (Time × Moment) :=
  match t.action, t.before.position with
  | .requestRefresh, _ => some (t.before.clock, .requested)
  | .advance, .starting => some (t.before.clock, .started false)
  | .advance, .due eventDriven => some (t.before.clock, .started eventDriven)
  | .advance, .refreshing => some (t.before.clock, .ended)
  | _, _ => none

theorem advance_log (config : Config) (loop : Loop) :
    (loop.advance config).log =
      loop.log ++ (momentIn ⟨loop, .advance, loop.advance config⟩).toList := by
  cases standing : loop.position with
  | starting => simp [Loop.advance, standing, momentIn, Loop.refreshState, Loop.record]
  | refreshing => simp [Loop.advance, standing, momentIn, Loop.record]
  | due eventDriven => simp [Loop.advance, standing, momentIn, Loop.refreshState, Loop.record]
  | refreshed => cases ticking : loop.ticker <;> simp [Loop.advance, standing, ticking, momentIn]
  | received eventDriven =>
      cases eventDriven with
      | false => simp [Loop.advance, standing, momentIn]
      | true =>
          simp only [Loop.advance, standing, momentIn]
          split <;> simp
  | sleeping wake =>
      simp only [Loop.advance, standing, momentIn]
      split <;> simp
  | _ => simp [Loop.advance, standing, momentIn]

theorem step_log (config : Config) (loop : Loop) (action : Action) :
    (step config loop action).log =
      loop.log ++ (momentIn ⟨loop, action, step config loop action⟩).toList := by
  cases action with
  | advance => exact advance_log config loop
  | pass elapsed => simp [step, momentIn]
  | requestRefresh => simp [step, momentIn, Loop.record]
  | tick =>
      simp only [step, Loop.tick, momentIn]
      repeat' split
      all_goals simp
  | receiveTick =>
      simp only [step, Loop.receiveTick, momentIn]
      repeat' split
      all_goals simp
  | receiveRefresh =>
      simp only [step, Loop.receiveRefresh, momentIn]
      repeat' split
      all_goals simp

theorem run_log (config : Config) (clock : Time) (actions : List Action) :
    (run (step config) (.start clock) actions).log =
      (transitions (step config) (.start clock) actions).filterMap momentIn := by
  rw [run_recorded Loop.log (fun t => (momentIn t).toList) (step_log config),
    List.filterMap_eq_flatMap_toList]
  rfl

/-- In every interleaving, a request made since the last refresh began is still to be
served, and a refresh on request begins no sooner than the interval after the last end. -/
theorem run_serves (config : Config) (clock : Time) (actions : List Action) :
    (run (step config) (.start clock) actions).log =
      (transitions (step config) (.start clock) actions).filterMap momentIn ∧
    Serves (run (step config) (.start clock) actions) :=
  ⟨run_log config clock actions,
    (invariant Inv (fun _ action inv => step_inv config inv action) (start_inv clock) actions).1.toServes⟩

-- Two requests a second after a refresh: the loop wakes for one, sleeps the other away.
example : (run (step .initial) (.start 0) ([.advance, .advance, .advance, .advance, .pass 1000000000,
      .requestRefresh, .receiveRefresh, .advance, .advance, .requestRefresh, .pass 1000000000] ++
      List.replicate 3 .advance)).log =
    [(0, .started false), (0, .ended), (1000000000, .requested), (1000000000, .requested),
      (2000000000, .started true)] := by decide

end SprHomeAssistant.Plugin.PollLoop
