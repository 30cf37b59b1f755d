import Mathlib.Order.WellFounded
import SprHomeAssistant.Library.Runs

/-! A machine whose steps come among the steps of others.

The others do not disturb it when its run among them is a run that it has alone. They do
not hold it up when its own steps get it done whatever the others do in between.
-/

set_option autoImplicit false

namespace SprHomeAssistant.Library.Disturbance
open Library.Runs

variable {State Action : Type} {step : State → Action → State}

/-- A run whose every step is taken alike alone, unless it may be left out, is alike to a run
without what is foreign to it. -/
theorem exists_alone {alike : State → State → Prop} {foreign : Action → Bool}
    (steps : ∀ state alone action, alike state alone → alike (step state action) alone ∨
      foreign action = false ∧ alike (step state action) (step alone action))
    {state alone : State} (same : alike state alone) (actions : List Action) :
    ∃ own : List Action, own.Sublist actions ∧ (∀ action ∈ own, foreign action = false) ∧
      alike (run step state actions) (run step alone own) := by
  induction actions generalizing state alone with
  | nil => exact ⟨[], List.Sublist.refl _, List.forall_mem_nil _, same⟩
  | cons action rest ih =>
      rcases steps state alone action same with left | ⟨native, both⟩
      · obtain ⟨own, among, natives, ends⟩ := ih left
        exact ⟨own, among.cons action, natives, ends⟩
      · obtain ⟨own, among, natives, ends⟩ := ih both
        exact ⟨action :: own, among.cons_cons action, List.forall_mem_cons.mpr ⟨native, natives⟩, ends⟩

/-- Own steps by a rule, and what the others do after each of them. -/
def rounds (step : State → Action → State) (next : State → Action) (start : State) (others : ℕ → List Action) :
    ℕ → State
  | 0 => start
  | n + 1 =>
      let before := rounds step next start others n
      run step (step before (next before)) (others n)

/-- The first round, and then the rest of them. -/
theorem rounds_succ (next : State → Action) (start : State) (others : ℕ → List Action) (n : ℕ) :
    rounds step next start others (n + 1) =
      rounds step next (run step (step start (next start)) (others 0)) (fun k => others (k + 1)) n := by
  induction n with
  | zero => rfl
  | succ n ih => rw [rounds, ih, rounds]

theorem rounds_holds {holds : State → Prop} {next : State → Action} {foreign : Action → Bool}
    (own : ∀ state, holds state → holds (step state (next state)))
    (aside : ∀ state action, foreign action = true → holds state → holds (step state action))
    {start : State} (initial : holds start) {others : ℕ → List Action}
    (strangers : ∀ n, ∀ action ∈ others n, foreign action = true) (n : ℕ) :
    holds (rounds step next start others n) := by
  induction n with
  | zero => exact initial
  | succ n ih =>
      refine List.foldlRecOn (motive := holds) (others n) step (own _ ih) fun state kept action member => ?_
      exact aside state action (strangers n action member) kept

/-- What every own step brings closer and the others leave where it is, is reached. -/
theorem exists_rounds_done {Measure : Type} [LT Measure] [WellFoundedLT Measure] (measure : State → Measure)
    {next : State → Action} {done : State → Prop} {foreign : Action → Bool}
    (closer : ∀ state, ¬ done state → measure (step state (next state)) < measure state)
    (aside : ∀ state action, foreign action = true → measure (step state action) = measure state)
    (start : State) {others : ℕ → List Action} (strangers : ∀ n, ∀ action ∈ others n, foreign action = true) :
    ∃ n, done (rounds step next start others n) := by
  have left : ∀ state, ∀ actions : List Action, (∀ action ∈ actions, foreign action = true) →
      measure (run step state actions) = measure state := by
    intro state actions
    induction actions generalizing state with
    | nil => exact fun _ => rfl
    | cons action rest ih =>
        intro strange
        obtain ⟨first, later⟩ := List.forall_mem_cons.mp strange
        rw [run_cons, ih _ later, aside state action first]
  -- the induction is on the measure, which the others of a round leave alone
  generalize distance : measure start = size
  induction size using WellFoundedLT.induction generalizing start others with
  | ind size ih =>
      by_cases finished : done start
      · exact ⟨0, finished⟩
      · have smaller : measure (run step (step start (next start)) (others 0)) < size := by
          rw [left _ _ (strangers 0), ← distance]
          exact closer start finished
        obtain ⟨n, ends⟩ := ih _ smaller _ (fun k => strangers (k + 1)) rfl
        exact ⟨n + 1, by rwa [rounds_succ]⟩

end SprHomeAssistant.Library.Disturbance
