import SprHomeAssistant.Library.Runs

/-! One machine seen as another.

A machine refines another one through a view when each of its steps, seen so, is some
steps of the other one, or none. What holds along every run of the other machine then
holds of the view along every run of this one.
-/

set_option autoImplicit false

namespace SprHomeAssistant.Library.Refinement
open Library.Runs

variable {State Action Other Move : Type}
variable {step : State → Action → State} {move : Other → Move → Other}

def Refines (view : State → Other) (step : State → Action → State) (move : Other → Move → Other) : Prop :=
  ∀ state action, ∃ moves, view (step state action) = run move (view state) moves

/-- A state that the other machine can come to from `origin`. -/
def Reached (move : Other → Move → Other) (origin state : Other) : Prop :=
  ∃ moves, state = run move origin moves

theorem Reached.refl (origin : Other) : Reached move origin origin := ⟨[], rfl⟩

theorem Reached.trans {first second third : Other} (left : Reached move first second)
    (right : Reached move second third) : Reached move first third := by
  obtain ⟨earlier, rfl⟩ := left
  obtain ⟨later, rfl⟩ := right
  exact ⟨earlier ++ later, (run_append first earlier later).symm⟩

theorem Reached.holds {motive : Other → Prop} (kept : ∀ state action, motive state → motive (move state action))
    {origin state : Other} (initial : motive origin) (reached : Reached move origin state) : motive state := by
  obtain ⟨moves, rfl⟩ := reached
  exact (invariant motive kept initial moves).1

theorem Refines.run {view : State → Other} (refines : Refines view step move) (start : State)
    (actions : List Action) : Reached move (view start) (view (run step start actions)) := by
  induction actions generalizing start with
  | nil => exact Reached.refl _
  | cons action rest ih => exact Reached.trans (refines start action) (ih (step start action))

/-- A step that is one step of the other machine, or leaves the view alone. -/
theorem refines_of_steps {view : State → Other}
    (steps : ∀ state action, view (step state action) = view state ∨
      ∃ action', view (step state action) = move (view state) action') : Refines view step move := by
  intro state action
  rcases steps state action with still | ⟨action', moved⟩
  · exact ⟨[], still⟩
  · exact ⟨[action'], moved⟩

end SprHomeAssistant.Library.Refinement
