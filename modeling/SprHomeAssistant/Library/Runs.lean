import Mathlib.Data.List.DropRight

/-! Runs of a machine whose step is a total function.

A refused action leaves the state as it was, so the runs of such a machine are
the finite lists of actions. What a run did is read from its transitions.
-/

set_option autoImplicit false

namespace SprHomeAssistant.Library.Runs

variable {State Action : Type}

/-- One step of a run: the state it leaves, its action and the state it reaches. -/
structure Transition (State Action : Type) where
  before : State
  action : Action
  after : State

def run (step : State → Action → State) (start : State) (actions : List Action) : State :=
  actions.foldl step start

def transitions (step : State → Action → State) (start : State) :
    List Action → List (Transition State Action)
  | [] => []
  | action :: rest =>
      ⟨start, action, step start action⟩ :: transitions step (step start action) rest

variable {step : State → Action → State}

@[simp] theorem run_nil (start : State) : run step start [] = start := rfl

@[simp] theorem run_cons (start : State) (action : Action) (rest : List Action) :
    run step start (action :: rest) = run step (step start action) rest := rfl

theorem run_append (start : State) (first rest : List Action) :
    run step start (first ++ rest) = run step (run step start first) rest :=
  List.foldl_append

theorem run_concat (start : State) (first : List Action) (last : Action) :
    run step start (first ++ [last]) = step (run step start first) last := by
  simp [run_append]

theorem transitions_append (start : State) (first rest : List Action) :
    transitions step start (first ++ rest) =
      transitions step start first ++ transitions step (run step start first) rest := by
  induction first generalizing start with
  | nil => rfl
  | cons action first ih => simp [transitions, ih]

/-- The transitions of a run are the splits of its actions at one of them. -/
theorem mem_transitions {start : State} {actions : List Action}
    {transition : Transition State Action} :
    transition ∈ transitions step start actions ↔
      ∃ earlier later, actions = earlier ++ transition.action :: later ∧
        transition.before = run step start earlier ∧
        transition.after = step transition.before transition.action := by
  induction actions generalizing start with
  | nil => simp [transitions]
  | cons action rest ih =>
      rw [transitions, List.mem_cons, ih]
      constructor
      · rintro (rfl | ⟨earlier, later, split, before, after⟩)
        · exact ⟨[], rest, rfl, rfl, rfl⟩
        · exact ⟨action :: earlier, later, by rw [split]; rfl, before, after⟩
      · rintro ⟨earlier, later, split, before, after⟩
        cases earlier with
        | nil =>
            obtain ⟨rfl, rfl⟩ := List.cons.inj split
            left
            cases transition
            simp_all
        | cons first earlier =>
            obtain ⟨rfl, rfl⟩ := List.cons.inj split
            exact Or.inr ⟨earlier, later, rfl, before, after⟩

theorem last_mem_transitions (start : State) (first : List Action) (last : Action) :
    ⟨run step start first, last, step (run step start first) last⟩ ∈
      transitions step start (first ++ [last]) :=
  mem_transitions.mpr ⟨first, [], rfl, rfl, rfl⟩

theorem transition_after {start : State} {actions : List Action}
    {transition : Transition State Action}
    (member : transition ∈ transitions step start actions) :
    transition.after = step transition.before transition.action := by
  obtain ⟨_, _, _, _, after⟩ := mem_transitions.mp member
  exact after

/-- What its steps append to a record, a run appends in their order. -/
theorem run_recorded {Entry : Type} (record : State → List Entry)
    (appended : Transition State Action → List Entry)
    (appends : ∀ state action,
      record (step state action) = record state ++ appended ⟨state, action, step state action⟩)
    (start : State) (actions : List Action) :
    record (run step start actions) =
      record start ++ (transitions step start actions).flatMap appended := by
  induction actions generalizing start with
  | nil => simp [transitions]
  | cons action rest ih =>
      rw [run_cons, ih, appends, transitions, List.flatMap_cons, List.append_assoc]

/-- Where some actions take every state back to the start, the rest of a run after the
last of them decides where it ends. -/
theorem run_since_reset {start : State} {keeps : Action → Bool}
    (resets : ∀ state action, keeps action = false → step state action = start)
    (actions : List Action) : run step start actions = run step start (actions.rtakeWhile keeps) := by
  have split := List.rdropWhile_append_rtakeWhile (p := keeps) (l := actions)
  conv_lhs => rw [← split, run_append]
  congr 1
  obtain none | ⟨earlier, last, shape⟩ := List.eq_nil_or_concat (actions.rdropWhile keeps)
  · rw [none, run_nil]
  · have reset : keeps last = false := by
      have ends := List.rdropWhile_last_not keeps actions (by simp [shape])
      simpa [shape] using ends
    rw [shape, List.concat_eq_append, run_concat, resets _ _ reset]

/-- An invariant kept by every allowed step holds at both ends of every transition
of a run whose steps are all allowed, and where the run ends. -/
theorem invariant_of_allowed (inv : State → Prop) (allowed : State → Action → Prop)
    (kept : ∀ state action, inv state → allowed state action → inv (step state action))
    {start : State} (initial : inv start) {actions : List Action}
    (steps : ∀ t ∈ transitions step start actions, allowed t.before t.action) :
    inv (run step start actions) ∧
      ∀ t ∈ transitions step start actions, inv t.before ∧ inv t.after := by
  induction actions generalizing start with
  | nil => exact ⟨initial, by simp [transitions]⟩
  | cons action rest ih =>
      have first : allowed start action := steps _ List.mem_cons_self
      have next := kept start action initial first
      obtain ⟨final, later⟩ := ih next fun t member => steps t (List.mem_cons_of_mem _ member)
      refine ⟨final, fun t member => ?_⟩
      rcases List.mem_cons.mp member with rfl | member
      · exact ⟨initial, next⟩
      · exact later t member

theorem invariant (inv : State → Prop)
    (kept : ∀ state action, inv state → inv (step state action))
    {start : State} (initial : inv start) (actions : List Action) :
    inv (run step start actions) ∧
      ∀ t ∈ transitions step start actions, inv t.before ∧ inv t.after :=
  invariant_of_allowed inv (fun _ _ => True) (fun state action holds _ => kept state action holds)
    initial fun _ _ => trivial

end SprHomeAssistant.Library.Runs
