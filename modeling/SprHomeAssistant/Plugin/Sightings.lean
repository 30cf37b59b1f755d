import SprHomeAssistant.Library.Latest
import SprHomeAssistant.Plugin.Process

/-! The sightings in `gState.lastSeen` under every interleaving of its writers.

A refresh raises a sighting, a bus handler assigns it. The handler's sample is older
than its turn at the lock, so an assignment may come behind a later sample.
-/

set_option autoImplicit false

namespace SprHomeAssistant.Plugin
open Go Library.Runs Library.Latest

def registers (seen : Map Int) : String → Option Int := fun mac => seen.lookup mac

theorem registers_insert (seen : Map Int) (mac : String) (sample : Int) :
    registers (seen.insert mac sample) = Function.update (registers seen) mac (some sample) :=
  lookup_insert_eq_update seen mac sample

theorem mergeSighting_cases (seen : Map Int) (entry : (_ : String) × Int) :
    (Raises 0 (registers seen) entry.1 entry.2 ∧
      mergeSighting seen entry = seen.insert entry.1 entry.2) ∨
    (¬ Raises 0 (registers seen) entry.1 entry.2 ∧ mergeSighting seen entry = seen) := by
  by_cases raises : Raises 0 (registers seen) entry.1 entry.2
  · exact Or.inl ⟨raises, if_pos raises⟩
  · exact Or.inr ⟨raises, if_neg raises⟩

theorem mergedSightings_cons (seen : Map Int) (entry : (_ : String) × Int)
    (rest : List ((_ : String) × Int)) (raises : Raises 0 (registers seen) entry.1 entry.2) :
    mergedSightings seen (entry :: rest) =
      (entry.1, entry.2) :: mergedSightings (mergeSighting seen entry) rest :=
  if_pos raises

theorem mergedSightings_skip (seen : Map Int) (entry : (_ : String) × Int)
    (rest : List ((_ : String) × Int)) (kept : ¬ Raises 0 (registers seen) entry.1 entry.2) :
    mergedSightings seen (entry :: rest) = mergedSightings (mergeSighting seen entry) rest :=
  if_neg kept

/-- The merge at the end of a refresh never takes a sighting back. -/
theorem merge_latest (entries : List ((_ : String) × Int)) :
    ∀ {seen : Map Int} {written : List (String × Int)}, IsLatest written (registers seen) →
      IsLatest (written ++ mergedSightings seen entries)
          (registers (entries.foldl mergeSighting seen)) ∧
        Advances (registers seen) (registers (entries.foldl mergeSighting seen)) := by
  -- a merged entry changes the store, so the induction is for every store
  induction entries with
  | nil =>
      intro seen written latest
      simp only [mergedSightings, List.append_nil, List.foldl_nil]
      exact ⟨latest, Advances.refl _⟩
  | cons entry rest ih =>
      intro seen written latest
      rw [List.foldl_cons]
      obtain ⟨raises, merged⟩ | ⟨kept, merged⟩ := mergeSighting_cases seen entry
      · have ordered := raises.inOrder latest
        have raised := assign_latest latest ordered
        have advanced := assign_advances latest ordered
        rw [← registers_insert, ← merged] at raised advanced
        obtain ⟨final, later⟩ := ih raised
        rw [mergedSightings_cons seen entry rest raises]
        exact ⟨by simpa using final, advanced.trans later⟩
      · rw [mergedSightings_skip seen entry rest kept]
        rw [merged]
        exact ih latest

/-- The handler about to write does not come behind a later sample of its MAC. -/
def WritesInOrder (p : Process) (action : Action) : Prop :=
  match action with
  | .markSeen handler =>
      ∀ mac when, p.handlers[handler]? = some (mac, when) →
        InOrder p.history.written (normalizeMAC mac) (unix when)
  | _ => True

def Latest (p : Process) : Prop := IsLatest p.history.written (registers p.store.lastSeen)

theorem start_latest (clock : Time) : Latest (.start clock) := IsLatest.empty

/-- What a step does to the sightings: a handler assigns, a refresh merges, and nothing
else touches them. -/
theorem step_sightings (p : Process) (action : Action) :
    (∃ handler mac when, action = .markSeen handler ∧ p.handlers[handler]? = some (mac, when) ∧
      (step p action).store.lastSeen = p.store.lastSeen.insert (normalizeMAC mac) (unix when) ∧
      (step p action).history.written = p.history.written ++ [(normalizeMAC mac, unix when)]) ∨
    (∃ entries : List ((_ : String) × Int),
      (step p action).store.lastSeen = entries.foldl mergeSighting p.store.lastSeen ∧
      (step p action).history.written =
        p.history.written ++ mergedSightings p.store.lastSeen entries) := by
  have still : ∀ q : Process, q.store = p.store → q.history.written = p.history.written →
      ∃ entries : List ((_ : String) × Int),
        q.store.lastSeen = entries.foldl mergeSighting p.store.lastSeen ∧
        q.history.written = p.history.written ++ mergedSightings p.store.lastSeen entries := by
    intro q store written
    exact ⟨[], by rw [store]; rfl, by rw [written, mergedSightings, List.append_nil]⟩
  have did := stepped p action
  generalize step p action = q at did ⊢
  cases did with
  | marked waiting => exact Or.inl ⟨_, _, _, rfl, waiting, rfl, rfl⟩
  | published copied => exact Or.inr ⟨_, rfl, rfl⟩
  | _ => exact Or.inr (still _ rfl rfl)

theorem step_latest {p : Process} {action : Action} (latest : Latest p)
    (ordered : WritesInOrder p action) :
    Latest (step p action) ∧
      Advances (registers p.store.lastSeen) (registers (step p action).store.lastSeen) := by
  unfold Latest
  obtain ⟨handler, mac, when, rfl, pending, seen, written⟩ | ⟨entries, seen, written⟩ :=
    step_sightings p action
  · have inOrder : InOrder p.history.written (normalizeMAC mac) (unix when) := ordered mac when pending
    rw [seen, written, registers_insert]
    exact ⟨assign_latest latest inOrder, assign_advances latest inOrder⟩
  · rw [seen, written]
    exact merge_latest entries latest

/-- No step takes a sighting back, and every sample written so far is still covered. -/
structure KeepsSightings (t : Transition Process Action) : Prop where
  advances : Advances (registers t.before.store.lastSeen) (registers t.after.store.lastSeen)
  covers : Covers t.after.history.written (registers t.after.store.lastSeen)

theorem writesInOrder_of_covers {p : Process} {action : Action}
    (covers : Covers (step p action).history.written (registers (step p action).store.lastSeen)) :
    WritesInOrder p action := by
  cases action with
  | markSeen handler =>
      intro mac when pending
      simp only [step, pending, Process.markSeen, StateStore.markSeen, registers_insert] at covers
      exact inOrder_of_covers covers
  | tick elapsed => trivial
  | handleBusEvent topic mac => trivial
  | beginRefresh => trivial
  | fetch reads => trivial
  | copyState => trivial
  | publish => trivial

/-- A run keeps its sightings exactly when no handler writes behind a later sample of
its MAC. Refreshes may be anywhere in between. -/
theorem run_keepsSightings_iff (clock : Time) (actions : List Action) :
    (∀ t ∈ transitions step (.start clock) actions, KeepsSightings t) ↔
      ∀ t ∈ transitions step (.start clock) actions, WritesInOrder t.before t.action := by
  constructor
  · intro keeps t member
    have covers := (keeps t member).covers
    rw [transition_after member] at covers
    exact writesInOrder_of_covers covers
  · intro ordered t member
    obtain ⟨_, along⟩ := invariant_of_allowed Latest WritesInOrder
      (fun p action latest inOrder => (step_latest latest inOrder).1) (start_latest clock) ordered
    obtain ⟨before, after⟩ := along t member
    have advances := (step_latest before (ordered t member)).2
    rw [← transition_after member] at advances
    exact ⟨advances, after.covers⟩

/-- Two handlers for one station: the first one samples the clock just before a second
ends, and gets the lock after the second one, which sampled just after. -/
def lateHandler : List Action :=
  [.handleBusEvent "wifi:auth:success" "aa:bb:cc:dd:ee:01", .tick 2,
    .handleBusEvent "dhcp:request" "aa:bb:cc:dd:ee:01", .markSeen 1]

theorem late_handler_takes_sighting_back :
    ¬ ∀ (clock : Time) (actions : List Action),
      ∀ t ∈ transitions step (.start clock) actions, KeepsSightings t := by
  intro all
  let before := run step (.start 1999999999) lateHandler
  have keeps := all 1999999999 (lateHandler ++ [.markSeen 0])
    ⟨before, .markSeen 0, step before (.markSeen 0)⟩
    (mem_transitions.mpr ⟨lateHandler, [], rfl, rfl, rfl⟩)
  obtain ⟨later, held, above⟩ := keeps.advances "aa:bb:cc:dd:ee:01" 2 (by decide)
  have now : registers (step before (.markSeen 0)).store.lastSeen "aa:bb:cc:dd:ee:01" = some 1 := by
    decide
  rw [now, Option.some.injEq] at held
  omega

end SprHomeAssistant.Plugin
