import SprHomeAssistant.Go.Decoding
import SprHomeAssistant.Library.Refinement
import SprHomeAssistant.Plugin.LastSeen
import SprHomeAssistant.Plugin.PollLoop
import SprHomeAssistant.Plugin.SseHub

/-! The plugin as one program: the poll loop, the refresh that it makes, the bus handlers
and the event streams, each at a statement of its own.

A handler samples the clock, writes its sighting under the lock and asks for a refresh. A
refresh is the loop's own call, and returns when it has broadcast its last event.
-/

set_option autoImplicit false

namespace SprHomeAssistant.Plugin
open Go Library.Runs Library.Refinement PollLoop

/-! ## Bus events -/

structure BusDeviceEvent where
  mac : String
  iface : String
  name : String

def busDeviceEventFields : List (String × Decoder BusDeviceEvent) := [
  ("MAC", fun event document =>
    let decoded := decodeString event.mac document
    ({ event with mac := decoded.1 }, decoded.2)),
  ("Iface", fun event document =>
    let decoded := decodeString event.iface document
    ({ event with iface := decoded.1 }, decoded.2)),
  ("Name", fun event document =>
    let decoded := decodeString event.name document
    ({ event with name := decoded.1 }, decoded.2))]

/-- The error is ignored. A text that is not JSON leaves the event empty, a field that does
not fit leaves its own place empty. -/
def unmarshalBusEvent (value : Option Json) : BusDeviceEvent :=
  match value with
  | none => ⟨"", "", ""⟩
  | some document => (decodeStruct busDeviceEventFields ⟨"", "", ""⟩ document).1

/-- Whether the handler has a sighting to write before it asks for a refresh. -/
def sighting (topic mac : String) : Bool :=
  mac ≠ "" && isMAC mac && (topic = "wifi:auth:success" || topic = "dhcp:request")

/-! ## The program -/

structure Service where
  loop : Loop
  process : Process
  /-- Handlers that have only `requestRefresh` left. -/
  requesting : Nat
  /-- The transitions that the refresh has not broadcast yet. -/
  unsent : List Event
  hub : SseHub.Hub Event
  /-- Whether the refresh that began last has published. No step reads it. -/
  published : Bool
  /-- Every snapshot that was served, in order. No step reads it. -/
  snapshots : List Snapshot

def Service.start (clock : Time) : Service :=
  ⟨.start clock, .start clock, 0, [], .start, false, [.zero]⟩

inductive Service.Action where
  | pass (elapsed : Nat)
  | handleBusEvent (topic : String) (value : Option Json)
  | markSeen (handler : Nat)
  | requestRefresh
  | tick
  | receiveTick
  | receiveRefresh
  /-- The loop's next statement. -/
  | advance
  | fetch (reads : Reads)
  | copyState
  | publish
  | broadcast
  /-- A stream handler, or a broadcast under way, moves on. -/
  | stream (action : SseHub.Action Event)

def Phase.isIdle : Phase → Bool
  | .idle => true
  | .started _ | .gathered _ | .copied _ _ => false

def Service.pass (s : Service) (config : Config) (elapsed : Nat) : Service :=
  { s with
    loop := PollLoop.step config s.loop (.pass elapsed)
    process := Plugin.step s.process (.tick elapsed) }

def Service.handleBusEvent (s : Service) (topic : String) (value : Option Json) : Service :=
  let event := unmarshalBusEvent value
  if sighting topic event.mac then
    { s with process := Plugin.step s.process (.handleBusEvent topic event.mac) }
  else { s with requesting := s.requesting + 1 }

def Service.markSeen (s : Service) (handler : Nat) : Service :=
  if handler < s.process.handlers.length then
    { s with process := Plugin.step s.process (.markSeen handler), requesting := s.requesting + 1 }
  else s

def Service.requestRefresh (s : Service) (config : Config) : Service :=
  if s.requesting = 0 then s
  else
    { s with
      loop := PollLoop.step config s.loop .requestRefresh
      requesting := s.requesting - 1 }

/-- The refresh has returned: it has no more to do under the lock and nothing to send. -/
def Service.returned (s : Service) : Bool :=
  s.process.phase.isIdle && s.unsent.isEmpty && s.hub.sending.isNone

def Service.advance (s : Service) (config : Config) : Service :=
  match s.loop.position with
  | .starting | .due _ =>
      { s with
        loop := PollLoop.step config s.loop .advance
        process := Plugin.step s.process .beginRefresh
        published := false }
  | .refreshing =>
      if s.returned then { s with loop := PollLoop.step config s.loop .advance } else s
  | .refreshed | .selecting | .received _ | .pausing _ | .sleeping _ | .draining =>
      { s with loop := PollLoop.step config s.loop .advance }

def Service.publish (s : Service) : Service :=
  match s.process.phase with
  | .copied g copy =>
      let process := Plugin.step s.process .publish
      { s with
        process := process
        unsent := transitionEvents copy.prevConnected (trackDevices g copy.lastSeen)
        published := true
        snapshots := s.snapshots ++ [process.store.snapshot] }
  | _ => s

def Service.broadcast (s : Service) : Service :=
  match s.unsent, s.hub.sending with
  | e :: rest, none => { s with unsent := rest, hub := SseHub.step s.hub (.broadcast e) }
  | _, _ => s

def Service.stream (s : Service) (action : SseHub.Action Event) : Service :=
  match action with
  -- only the refresh broadcasts
  | .broadcast _ => s
  | action => { s with hub := SseHub.step s.hub action }

def Service.step (config : Config) (s : Service) : Service.Action → Service
  | .pass elapsed => s.pass config elapsed
  | .handleBusEvent topic value => s.handleBusEvent topic value
  | .markSeen handler => s.markSeen handler
  | .requestRefresh => s.requestRefresh config
  | .tick => { s with loop := PollLoop.step config s.loop .tick }
  | .receiveTick => { s with loop := PollLoop.step config s.loop .receiveTick }
  | .receiveRefresh => { s with loop := PollLoop.step config s.loop .receiveRefresh }
  | .advance => s.advance config
  | .fetch reads => { s with process := Plugin.step s.process (.fetch reads) }
  | .copyState => { s with process := Plugin.step s.process .copyState }
  | .publish => s.publish
  | .broadcast => s.broadcast
  | .stream action => s.stream action

/-- What a step comes to, whatever it was called. -/
inductive Service.Moved (config : Config) (s : Service) : Service → Prop where
  | still : Moved config s s
  | passed (elapsed : Nat) : Moved config s (s.pass config elapsed)
  | sampled (topic mac : String) :
      Moved config s { s with process := Plugin.step s.process (.handleBusEvent topic mac) }
  | unsighted : Moved config s { s with requesting := s.requesting + 1 }
  | marked (handler : Nat) :
      Moved config s
        { s with process := Plugin.step s.process (.markSeen handler), requesting := s.requesting + 1 }
  | requested (asking : s.requesting ≠ 0) :
      Moved config s
        { s with
          loop := PollLoop.step config s.loop .requestRefresh
          requesting := s.requesting - 1 }
  /-- The ticker, the select, or a statement of the loop that is not a call. -/
  | looped (action : PollLoop.Action)
      (apart : action = .advance → s.loop.position ≠ .starting ∧ (∀ eventDriven, s.loop.position ≠ .due eventDriven) ∧
        (s.loop.position = .refreshing → s.returned = true))
      (own : action = .tick ∨ action = .receiveTick ∨ action = .receiveRefresh ∨ action = .advance) :
      Moved config s { s with loop := PollLoop.step config s.loop action }
  | began (eventDriven : Bool)
      (due : s.loop.position = .starting ∧ eventDriven = false ∨ s.loop.position = .due eventDriven) :
      Moved config s
        { s with
          loop := s.loop.refreshState eventDriven
          process := Plugin.step s.process .beginRefresh
          published := false }
  | fetched (reads : Reads) : Moved config s { s with process := Plugin.step s.process (.fetch reads) }
  | copied : Moved config s { s with process := Plugin.step s.process .copyState }
  | published {g : Gathered} {copy : Copied} (copied : s.process.phase = .copied g copy) :
      Moved config s
        { s with
          process := Plugin.step s.process .publish
          unsent := transitionEvents copy.prevConnected (trackDevices g copy.lastSeen)
          published := true
          snapshots := s.snapshots ++ [(Plugin.step s.process .publish).store.snapshot] }
  | broadcast {e : Event} {rest : List Event} (unsent : s.unsent = e :: rest) (free : s.hub.sending = none) :
      Moved config s { s with unsent := rest, hub := SseHub.step s.hub (.broadcast e) }
  | streamed (action : SseHub.Action Event) (own : ∀ e, action ≠ .broadcast e) :
      Moved config s { s with hub := SseHub.step s.hub action }

theorem Service.advance_moved (config : Config) (s : Service) : Moved config s (s.advance config) := by
  unfold Service.advance
  split
  next starting => simpa [PollLoop.step, Loop.advance, starting] using Moved.began false (Or.inl ⟨starting, rfl⟩)
  next eventDriven due => simpa [PollLoop.step, Loop.advance, due] using Moved.began eventDriven (Or.inr due)
  next refreshing =>
    split
    next returned => exact .looped .advance (by simp [refreshing, returned]) (by simp)
    next => exact .still
  all_goals
    next position => exact .looped .advance (by simp [position]) (by simp)

theorem Service.moved (config : Config) (s : Service) (action : Service.Action) :
    Moved config s (Service.step config s action) := by
  cases action with
  | pass elapsed => exact .passed elapsed
  | handleBusEvent topic value =>
      simp only [Service.step, Service.handleBusEvent]
      split
      · exact .sampled topic _
      · exact .unsighted
  | markSeen handler =>
      simp only [Service.step, Service.markSeen]
      split
      · exact .marked handler
      · exact .still
  | requestRefresh =>
      simp only [Service.step, Service.requestRefresh]
      split
      · exact .still
      next asking => exact .requested asking
  | tick => exact .looped .tick (by simp) (by simp)
  | receiveTick => exact .looped .receiveTick (by simp) (by simp)
  | receiveRefresh => exact .looped .receiveRefresh (by simp) (by simp)
  | advance => exact s.advance_moved config
  | fetch reads => exact .fetched reads
  | copyState => exact .copied
  | publish =>
      simp only [Service.step, Service.publish]
      split
      next copied => exact .published copied
      next => exact .still
  | broadcast =>
      simp only [Service.step, Service.broadcast]
      split
      next unsent free => exact .broadcast unsent free
      next => exact .still
  | stream action =>
      simp only [Service.step, Service.stream]
      split
      next => exact .still
      next own => exact .streamed action own

/-! ## The parts -/

/-- The loop of the program is the poll loop: what holds of that one holds here. -/
theorem Service.refines_loop (config : Config) :
    Refines Service.loop (Service.step config) (PollLoop.step config) := by
  refine refines_of_steps fun s action => ?_
  have did := Service.moved config s action
  generalize Service.step config s action = next at did ⊢
  cases did with
  | passed elapsed => exact Or.inr ⟨.pass elapsed, rfl⟩
  | requested asking => exact Or.inr ⟨.requestRefresh, rfl⟩
  | looped action apart own => exact Or.inr ⟨action, rfl⟩
  | began eventDriven due =>
      refine Or.inr ⟨.advance, ?_⟩
      rcases due with ⟨starting, rfl⟩ | due
      · simp [PollLoop.step, Loop.advance, starting]
      · simp [PollLoop.step, Loop.advance, due]
  | _ => exact Or.inl rfl

theorem Service.refines_process (config : Config) :
    Refines Service.process (Service.step config) Plugin.step := by
  refine refines_of_steps fun s action => ?_
  have did := Service.moved config s action
  generalize Service.step config s action = next at did ⊢
  cases did with
  | passed elapsed => exact Or.inr ⟨.tick elapsed, rfl⟩
  | sampled topic mac => exact Or.inr ⟨.handleBusEvent topic mac, rfl⟩
  | marked handler => exact Or.inr ⟨.markSeen handler, rfl⟩
  | began eventDriven due => exact Or.inr ⟨.beginRefresh, rfl⟩
  | fetched reads => exact Or.inr ⟨.fetch reads, rfl⟩
  | copied => exact Or.inr ⟨.copyState, rfl⟩
  | published copied => exact Or.inr ⟨.publish, rfl⟩
  | _ => exact Or.inl rfl

theorem Service.refines_hub (config : Config) :
    Refines Service.hub (Service.step config) SseHub.step := by
  refine refines_of_steps fun s action => ?_
  have did := Service.moved config s action
  generalize Service.step config s action = next at did ⊢
  cases did with
  | broadcast unsent free => exact Or.inr ⟨.broadcast _, rfl⟩
  | streamed action own => exact Or.inr ⟨action, rfl⟩
  | _ => exact Or.inl rfl

/-! ## What a step keeps -/

theorem step_markSeen_phase (p : Process) (handler : Nat) : (step p (.markSeen handler)).phase = p.phase := by
  simp only [step]
  split <;> rfl

theorem step_handleBusEvent (p : Process) (topic mac : String) :
    (step p (.handleBusEvent topic mac)).phase = p.phase ∧
      (step p (.handleBusEvent topic mac)).store = p.store := by
  simp only [step, Process.handleBusEvent]
  split <;> exact ⟨rfl, rfl⟩

/-- Only a beginning makes the process busy. -/
theorem step_busy {p : Process} {action : Action} (apart : action ≠ .beginRefresh)
    (busy : (step p action).phase.isIdle = false) : p.phase.isIdle = false := by
  cases action with
  | tick elapsed => exact busy
  | handleBusEvent topic mac => rwa [(step_handleBusEvent p topic mac).1] at busy
  | markSeen handler => rwa [step_markSeen_phase] at busy
  | beginRefresh => exact absurd rfl apart
  | _ => cases phase : p.phase with
    | idle => simp [step, phase, Phase.isIdle] at busy
    | _ => rfl

/-- Outside of `advance` the loop stays in its call. -/
theorem loop_refreshing (config : Config) {loop : Loop} {action : PollLoop.Action} (apart : action ≠ .advance)
    (refreshing : loop.position = .refreshing) : (PollLoop.step config loop action).position = .refreshing := by
  obtain ⟨position, refreshNow, ticker, last, clock, log⟩ := loop
  obtain rfl : position = .refreshing := refreshing
  cases action with
  | advance => exact absurd rfl apart
  | tick =>
      simp only [PollLoop.step, Loop.tick]
      split
      · rfl
      · split <;> rfl
  | _ => rfl

/-- The loop waits in its call while the refresh works, and while it sends what it found. -/
structure Service.Calls (s : Service) : Prop where
  calling : s.process.phase.isIdle = false → s.loop.position = .refreshing
  sending : s.unsent ≠ [] → s.loop.position = .refreshing ∧ s.process.phase.isIdle = true

theorem Service.start_calls (clock : Time) : (Service.start clock).Calls where
  calling := by simp [Service.start, Process.start, Phase.isIdle]
  sending := by simp [Service.start]

section
variable {s : Service}

theorem Service.Calls.aside (calls : s.Calls) {next : Service}
    (phase : next.process.phase.isIdle = false → s.process.phase.isIdle = false)
    (loop : s.loop.position = .refreshing → next.loop.position = .refreshing)
    (unsent : next.unsent ≠ [] → s.unsent ≠ []) : next.Calls where
  calling := fun busy => loop (calls.calling (phase busy))
  sending := by
    intro more
    obtain ⟨refreshing, idle⟩ := calls.sending (unsent more)
    refine ⟨loop refreshing, ?_⟩
    by_contra busy
    rw [phase (Bool.eq_false_iff.mpr busy)] at idle
    cases idle

/-- A refresh begins only once the one before it has returned. -/
theorem Service.Calls.due (calls : s.Calls) {eventDriven : Bool}
    (due : s.loop.position = .starting ∧ eventDriven = false ∨ s.loop.position = .due eventDriven) :
    s.process.phase.isIdle = true ∧ s.unsent = [] := by
  have apart : s.loop.position ≠ .refreshing := by
    rcases due with ⟨starting, -⟩ | due
    · simp [starting]
    · simp [due]
  constructor
  · by_contra busy
    exact apart (calls.calling (Bool.eq_false_iff.mpr busy))
  · by_contra more
    exact apart (calls.sending more).1

end

theorem Service.step_calls (config : Config) {s : Service} (calls : s.Calls) (action : Service.Action) :
    (Service.step config s action).Calls := by
  have did := Service.moved config s action
  generalize Service.step config s action = next at did ⊢
  cases did with
  | sampled topic mac =>
      exact calls.aside (step_busy (by simp)) id id
  | marked handler => exact calls.aside (step_busy (by simp)) id id
  | looped action apart own =>
      -- the loop goes on from its call only once the refresh has returned
      by_cases leaves : action = .advance ∧ s.loop.position = .refreshing
      · obtain ⟨rfl, refreshing⟩ := leaves
        have returned := (apart rfl).2.2 refreshing
        simp only [Service.returned, Bool.and_eq_true, List.isEmpty_iff] at returned
        obtain ⟨⟨idle, sent⟩, -⟩ := returned
        exact ⟨by simp [idle], by simp [sent]⟩
      · refine calls.aside id (fun refreshing => ?_) id
        exact loop_refreshing config (fun advancing => leaves ⟨advancing, refreshing⟩) refreshing
  | began eventDriven due =>
      obtain ⟨-, sent⟩ := calls.due due
      exact ⟨fun _ => rfl, by simp [sent]⟩
  | fetched reads => exact calls.aside (step_busy (by simp)) id id
  | copied => exact calls.aside (step_busy (by simp)) id id
  | published copied =>
      have calling := calls.calling (by rw [copied]; rfl)
      have idle : (Plugin.step s.process .publish).phase = .idle := by
        simp [Plugin.step, copied, Process.publish]
      exact ⟨fun _ => calling, fun _ => ⟨calling, by simp [idle, Phase.isIdle]⟩⟩
  | broadcast unsent free => exact calls.aside id id (by simp [unsent])
  | _ => exact calls.aside id id id

end SprHomeAssistant.Plugin
