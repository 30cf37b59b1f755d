import SprHomeAssistant.Library.Runs
import SprHomeAssistant.Plugin.Refresh

/-! The plugin process: one refresh at a time beside any number of bus handlers.

A handler reads the clock when it starts and takes the lock later. A refresh reads the
clock, makes its requests, copies the shared state and swaps its result in, each at a
moment of its own. Between these moments the other writers run in any order.
-/

set_option autoImplicit false

namespace SprHomeAssistant.Plugin
open Go Library.Runs

inductive Phase where
  | idle
  | started (now : Time)
  | gathered (g : Gathered)
  | copied (g : Gathered) (copy : Copied)

/-- What the process has done. No step reads it. -/
structure History where
  /-- Sightings written to `lastSeen`, in order. -/
  written : List (String × Int)
  tablesRead : List (Map DeviceEntry)
  /-- The table from which the current snapshot was made. -/
  publishedFrom : Option (Map DeviceEntry)
  broadcasts : List Event

structure Process where
  store : StateStore
  check : VersionCheck
  phase : Phase
  /-- Handlers that have read the clock and not yet taken the lock. -/
  handlers : List (String × Time)
  clock : Time
  history : History

def Process.start (clock : Time) : Process :=
  ⟨.initial, .initial, .idle, [], clock, ⟨[], [], none, []⟩⟩

inductive Action where
  | tick (elapsed : Nat)
  | handleBusEvent (topic mac : String)
  | markSeen (handler : Nat)
  | beginRefresh
  | fetch (reads : Reads)
  | copyState
  | publish

def Process.handleBusEvent (p : Process) (topic mac : String) : Process :=
  -- `time.Now()` is evaluated here, before `markSeen` takes the lock
  if mac ≠ "" ∧ isMAC mac = true ∧ (topic = "wifi:auth:success" ∨ topic = "dhcp:request") then
    { p with handlers := p.handlers ++ [(mac, p.clock)] }
  else p

def Process.markSeen (p : Process) (mac : String) (when : Time) : Process :=
  { p with
    store := p.store.markSeen mac when
    history.written := p.history.written ++ [(normalizeMAC mac, unix when)] }

/-- The sightings that `mergeSighting` writes, in order. -/
def mergedSightings : Map Int → List ((_ : String) × Int) → List (String × Int)
  | _, [] => []
  | seen, entry :: rest =>
      let later := mergedSightings (mergeSighting seen entry) rest
      if entry.2 > seen.get entry.1 0 then (entry.1, entry.2) :: later else later

def Process.publish (p : Process) (g : Gathered) (copy : Copied) : Process :=
  let tracking := trackDevices g copy.lastSeen
  { p with
    store := Plugin.publish g tracking p.store
    phase := .idle
    history.written := p.history.written ++ mergedSightings p.store.lastSeen tracking.lastSeen.entries
    history.publishedFrom := some g.devices
    history.broadcasts := p.history.broadcasts ++ transitionEvents copy.prevConnected tracking }

def Process.fetch (p : Process) (now : Time) (reads : Reads) : Process :=
  match gather now reads p.check with
  | (none, check) => { p with check := check, phase := .idle }
  | (some g, check) =>
      { p with
        check := check
        phase := .gathered g
        history.tablesRead := p.history.tablesRead ++ [g.devices] }

/-- An action that is not enabled changes nothing. -/
def step (p : Process) : Action → Process
  | .tick elapsed => { p with clock := p.clock + elapsed }
  | .handleBusEvent topic mac => p.handleBusEvent topic mac
  | .markSeen handler =>
      match p.handlers[handler]? with
      | none => p
      | some (mac, when) => { p.markSeen mac when with handlers := p.handlers.eraseIdx handler }
  | .beginRefresh =>
      match p.phase with
      | .idle => { p with phase := .started p.clock }
      | _ => p
  | .fetch reads =>
      match p.phase with
      | .started now => p.fetch now reads
      | _ => p
  | .copyState =>
      match p.phase with
      | .gathered g => { p with phase := .copied g (copyState p.store) }
      | _ => p
  | .publish =>
      match p.phase with
      | .copied g copy => p.publish g copy
      | _ => p

/-- What a step comes to, once its action and the phase are known. -/
inductive Stepped (p : Process) : Action → Process → Prop where
  /-- Only handlers and the clock move. -/
  | aside {action : Action} (handlers : List (String × Time)) (clock : Time)
      (unpublished : action = .publish → ∀ g copy, p.phase ≠ .copied g copy) :
      Stepped p action { p with handlers := handlers, clock := clock }
  | marked {handler : Nat} {mac : String} {when : Time} (waiting : p.handlers[handler]? = some (mac, when)) :
      Stepped p (.markSeen handler) { p.markSeen mac when with handlers := p.handlers.eraseIdx handler }
  | began (now : Time) : Stepped p .beginRefresh { p with phase := .started now }
  | unread (reads : Reads) (check : VersionCheck) :
      Stepped p (.fetch reads) { p with check := check, phase := .idle }
  | gathered (reads : Reads) (g : Gathered) (check : VersionCheck) :
      Stepped p (.fetch reads)
        { p with
          check := check
          phase := .gathered g
          history.tablesRead := p.history.tablesRead ++ [g.devices] }
  | copied {g : Gathered} (gathered : p.phase = .gathered g) :
      Stepped p .copyState { p with phase := .copied g (copyState p.store) }
  | published {g : Gathered} {copy : Copied} (copied : p.phase = .copied g copy) :
      Stepped p .publish (p.publish g copy)

theorem stepped (p : Process) (action : Action) : Stepped p action (step p action) := by
  cases action with
  | tick elapsed => exact .aside p.handlers _ (by simp)
  | handleBusEvent topic mac =>
      simp only [step, Process.handleBusEvent]
      split
      · exact .aside _ p.clock (by simp)
      · exact .aside p.handlers p.clock (by simp)
  | markSeen handler =>
      simp only [step]
      split
      · exact .aside p.handlers p.clock (by simp)
      next waiting => exact .marked waiting
  | beginRefresh =>
      simp only [step]
      split
      · exact .began p.clock
      · exact .aside p.handlers p.clock (by simp)
  | fetch reads =>
      simp only [step]
      split
      · simp only [Process.fetch]
        split
        · exact .unread reads _
        · exact .gathered reads _ _
      · exact .aside p.handlers p.clock (by simp)
  | copyState =>
      simp only [step]
      split
      next gathered => exact .copied gathered
      · exact .aside p.handlers p.clock (by simp)
  | publish =>
      simp only [step]
      split
      next copied => exact .published copied
      next uncopied => exact .aside p.handlers p.clock fun _ => uncopied

/-- With no other writer in between, the four moments of a refresh are `refreshState`. -/
theorem run_refresh (p : Process) (idle : p.phase = .idle) (reads : Reads) :
    let after := run step p [.beginRefresh, .fetch reads, .copyState, .publish]
    let whole := refreshState p.clock reads p.store p.check
    after.store = whole.store ∧ after.check = whole.check ∧ after.phase = .idle ∧
      after.history.broadcasts = p.history.broadcasts ++ whole.events := by
  cases p with
  | mk store check phase handlers clock history =>
      change phase = .idle at idle
      subst idle
      cases fetched : gather clock reads check with
      | mk g later =>
          cases g with
          | none => simp [step, Process.fetch, refreshState, fetched]
          | some g => simp [step, Process.fetch, Process.publish, refreshState, fetched]

end SprHomeAssistant.Plugin
