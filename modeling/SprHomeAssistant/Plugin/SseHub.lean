import Mathlib.Data.Finset.Basic
import Mathlib.Data.List.Nodup
import SprHomeAssistant.Library.Runs

/-! The hub that fans broadcasts out to the event streams.

The lock is held for all of a broadcast and for each change of the subscribers. Stream
handlers take from their channels without it, also while a broadcast is under way. The
map of subscribers is ranged over in any order.
-/

set_option autoImplicit false

namespace SprHomeAssistant.Plugin.SseHub
open Library.Runs

/-- The size of a subscriber's buffered channel. -/
def capacity : Nat := 16

variable {Message : Type}

/-- A broadcast with its place among all broadcasts. -/
abbrev Sent (Message : Type) := Message × Nat

structure Channel (Message : Type) where
  queue : List (Sent Message)
  received : List (Sent Message)
  /-- How many broadcasts were made before its subscribe and before its unsubscribe. -/
  joined : Nat
  left : Option Nat
  /-- Each broadcast that reached it and the number of messages then queued. -/
  offered : List (Sent Message × Nat)

/-- A broadcast that holds the lock, and the subscribers it has not come to. -/
structure Sending (Message : Type) where
  sent : Sent Message
  remaining : Finset Nat

/-- A channel is known by its place. `joined`, `left`, `offered` and the history record what
happened; no step decides by them. -/
structure Hub (Message : Type) where
  channels : List (Channel Message)
  subs : Finset Nat
  sending : Option (Sending Message)
  history : List Message

def Hub.start : Hub Message := ⟨[], ∅, none, []⟩

inductive Action (Message : Type) where
  | subscribe
  | unsubscribe (ch : Nat)
  | broadcast (data : Message)
  | offer (ch : Nat)
  | finish
  | receive (ch : Nat)

def Hub.subscribe (hub : Hub Message) : Hub Message :=
  { hub with
    channels := hub.channels ++ [⟨[], [], hub.history.length, none, []⟩]
    subs := insert hub.channels.length hub.subs }

def Channel.close (c : Channel Message) (broadcasts : Nat) : Channel Message :=
  { c with left := some (c.left.getD broadcasts) }

def Hub.unsubscribe (hub : Hub Message) (ch : Nat) : Hub Message :=
  { hub with
    channels := hub.channels.modify ch fun c => c.close hub.history.length
    subs := hub.subs.erase ch }

def Hub.broadcast (hub : Hub Message) (data : Message) : Hub Message :=
  { hub with
    sending := some ⟨(data, hub.history.length), hub.subs⟩
    history := hub.history ++ [data] }

def Channel.offer (c : Channel Message) (sent : Sent Message) : Channel Message :=
  { c with
    -- a slow consumer loses the message, the broadcast does not wait
    queue := if c.queue.length < capacity then c.queue ++ [sent] else c.queue
    offered := c.offered ++ [(sent, c.queue.length)] }

def Hub.offer (hub : Hub Message) (sending : Sending Message) (ch : Nat) : Hub Message :=
  { hub with
    channels := hub.channels.modify ch fun c => c.offer sending.sent
    sending := some { sending with remaining := sending.remaining.erase ch } }

def Channel.receive (c : Channel Message) : Channel Message :=
  match c.queue with
  | [] => c
  | msg :: rest => { c with queue := rest, received := c.received ++ [msg] }

def Hub.receive (hub : Hub Message) (ch : Nat) : Hub Message :=
  { hub with channels := hub.channels.modify ch Channel.receive }

/-- An action that is not enabled changes nothing. A handler takes messages from its
subscribe to its unsubscribe. -/
def step (hub : Hub Message) (action : Action Message) : Hub Message :=
  match action, hub.sending with
  | .subscribe, none => hub.subscribe
  | .unsubscribe ch, none => if ch ∈ hub.subs then hub.unsubscribe ch else hub
  | .broadcast data, none => hub.broadcast data
  | .offer ch, some sending => if ch ∈ sending.remaining then hub.offer sending ch else hub
  | .finish, some sending => if sending.remaining = ∅ then { hub with sending := none } else hub
  | .receive ch, _ => if ch ∈ hub.subs then hub.receive ch else hub
  | _, _ => hub

/-! ## What a subscriber gets -/

/-- The broadcasts made between a channel's subscribe and its unsubscribe. -/
def Hub.window (hub : Hub Message) (c : Channel Message) : List (Sent Message) :=
  (hub.history.zipIdx.take (c.left.getD hub.history.length)).drop c.joined

/-- The broadcast under way, when it has not come to the channel yet. -/
def Hub.pending (hub : Hub Message) (ch : Nat) : List (Sent Message) :=
  match hub.sending with
  | none => []
  | some sending => if ch ∈ sending.remaining then [sending.sent] else []

structure Delivers (hub : Hub Message) (ch : Nat) (c : Channel Message) : Prop where
  ordered : (c.received ++ c.queue).Sublist (hub.window c)
  distinct : ((c.received ++ c.queue).map (·.2)).Nodup
  bounded : c.queue.length ≤ capacity
  missing : ∀ sent ∈ hub.window c, sent ∉ c.received ++ c.queue →
    sent ∈ hub.pending ch ∨ (sent, capacity) ∈ c.offered

/-- The parts of a broadcast. -/
def Action.broadcasts : Action Message → Bool
  | .broadcast _ | .offer _ | .finish => true
  | .subscribe | .unsubscribe _ | .receive _ => false

/-- Two hubs that differ at most in channels other than one. -/
structure Agrees (ch : Nat) (hub other : Hub Message) : Prop where
  channel : hub.channels[ch]? = other.channels[ch]?
  subs : hub.subs = other.subs
  sending : hub.sending = other.sending
  history : hub.history = other.history

/-- A part of a broadcast at most appends its message to a queue, and what it does to a
subscriber and to the rest of the broadcast depends on no other subscriber's queue. -/
structure Isolated (hub : Hub Message) (action : Action Message) : Prop where
  appends : ∀ (ch : Nat) (c : Channel Message), hub.channels[ch]? = some c →
    ∃ after : Channel Message, (step hub action).channels[ch]? = some after ∧
      after.received = c.received ∧
      (after.queue = c.queue ∨
        ∃ sent ∈ hub.pending ch, action = .offer ch ∧ after.queue = c.queue ++ [sent])
  independent : ∀ (ch : Nat) (other : Hub Message), Agrees ch hub other →
    Agrees ch (step hub action) (step other action)

/-- What is kept of a channel while broadcasts, receives and other subscribers come and go. -/
structure Accounts (hub : Hub Message) (ch : Nat) (c : Channel Message) : Prop where
  subscribed : ch ∈ hub.subs ↔ c.left = none
  joined_le : c.joined ≤ hub.history.length
  left_le : ∀ broadcasts, c.left = some broadcasts → broadcasts ≤ hub.history.length
  reached : hub.window c = c.offered.map (·.1) ++ hub.pending ch
  accepted : c.received ++ c.queue = (c.offered.filter fun o => o.2 < capacity).map (·.1)
  bounded : c.queue.length ≤ capacity
  recorded : ∀ o ∈ c.offered, o.2 ≤ capacity

theorem window_places (hub : Hub Message) (c : Channel Message) :
    ((hub.window c).map (·.2)).Nodup := by
  have all : (hub.history.zipIdx.map (·.2)).Nodup := by
    rw [List.zipIdx_map_snd]
    exact List.nodup_range'
  have part : (hub.window c).Sublist hub.history.zipIdx :=
    (List.drop_sublist _ _).trans (List.take_sublist _ _)
  exact all.sublist (part.map _)

theorem window_open (hub : Hub Message) {c : Channel Message} (unclosed : c.left = none) :
    hub.window c = hub.history.zipIdx.drop c.joined := by
  have whole : hub.history.zipIdx.length ≤ hub.history.length := by simp
  rw [Hub.window, unclosed, Option.getD_none, List.take_of_length_le whole]

theorem Accounts.delivers {hub : Hub Message} {ch : Nat} {c : Channel Message}
    (accounts : Accounts hub ch c) : Delivers hub ch c := by
  have ordered : (c.received ++ c.queue).Sublist (hub.window c) := by
    rw [accounts.accepted, accounts.reached]
    exact (List.filter_sublist.map _).trans (List.sublist_append_left _ _)
  refine ⟨ordered, (window_places hub c).sublist (ordered.map _), accounts.bounded, ?_⟩
  intro sent made missing
  rw [accounts.reached, List.mem_append, List.mem_map] at made
  obtain ⟨⟨_, queued⟩, offered, rfl⟩ | pending := made
  · have full : ¬ queued < capacity := by
      intro room
      rw [accounts.accepted] at missing
      exact missing (List.mem_map.mpr ⟨_, List.mem_filter.mpr ⟨offered, by simpa using room⟩, rfl⟩)
    have within : queued ≤ capacity := accounts.recorded _ offered
    obtain rfl : queued = capacity := by omega
    exact Or.inr offered
  · exact Or.inl pending

theorem Accounts.subscribe {hub : Hub Message} (free : hub.sending = none) {ch : Nat}
    (inv : ∀ c, hub.channels[ch]? = some c → Accounts hub ch c) (c : Channel Message)
    (found : hub.subscribe.channels[ch]? = some c) : Accounts hub.subscribe ch c := by
  have idle : ∀ hub : Hub Message, hub.sending = none → hub.pending ch = [] := by
    intro hub free
    simp [Hub.pending, free]
  rcases Nat.lt_trichotomy ch hub.channels.length with old | rfl | beyond
  · simp only [Hub.subscribe, List.getElem?_append_left old] at found
    obtain ⟨subscribed, joined_le, left_le, reached, accepted, bounded, recorded⟩ := inv c found
    refine ⟨?_, joined_le, left_le, ?_, accepted, bounded, recorded⟩
    · simpa [Hub.subscribe, Nat.ne_of_lt old] using subscribed
    · rw [idle hub free] at reached
      rw [idle hub.subscribe free]
      exact reached
  · simp only [Hub.subscribe, List.getElem?_concat_length, Option.some.injEq] at found
    subst found
    refine ⟨?_, le_refl _, by simp, ?_, rfl, Nat.zero_le _, by simp⟩
    · simp [Hub.subscribe]
    · rw [idle hub.subscribe free]
      simp [Hub.window, Hub.subscribe]
  · have none : hub.subscribe.channels[ch]? = none := by
      simpa [Hub.subscribe, Nat.succ_le_iff] using beyond
    rw [none] at found
    cases found

theorem getElem?_modify_some {α : Type} {items : List α} {i j : Nat} {f : α → α} {item : α}
    (found : (items.modify i f)[j]? = some item) :
    ∃ before, items[j]? = some before ∧ item = if i = j then f before else before := by
  rw [List.getElem?_modify] at found
  cases held : items[j]? with
  | none => simp [held] at found
  | some before => exact ⟨before, rfl, by simpa [held, eq_comm] using found⟩

theorem Accounts.unsubscribe {hub : Hub Message} (free : hub.sending = none) {gone : Nat}
    (here : gone ∈ hub.subs) {ch : Nat}
    (inv : ∀ c, hub.channels[ch]? = some c → Accounts hub ch c) (c : Channel Message)
    (found : (hub.unsubscribe gone).channels[ch]? = some c) : Accounts (hub.unsubscribe gone) ch c := by
  obtain ⟨before, held, rfl⟩ := getElem?_modify_some found
  obtain ⟨subscribed, joined_le, left_le, reached, accepted, bounded, recorded⟩ := inv before held
  have pending : (hub.unsubscribe gone).pending ch = hub.pending ch := by
    simp [Hub.pending, Hub.unsubscribe, free]
  by_cases same : gone = ch
  · subst same
    have unclosed : before.left = none := subscribed.mp here
    simp only [if_true]
    refine ⟨?_, joined_le, ?_, ?_, accepted, bounded, recorded⟩
    · simp [Hub.unsubscribe, Channel.close]
    · simp [Hub.unsubscribe, Channel.close, unclosed]
    · rw [pending]
      simpa [Hub.window, Hub.unsubscribe, Channel.close, unclosed] using reached
  · simp only [if_neg same]
    refine ⟨?_, joined_le, left_le, ?_, accepted, bounded, recorded⟩
    · simpa [Hub.unsubscribe, Ne.symm same] using subscribed
    · rw [pending]
      exact reached

theorem Accounts.broadcast {hub : Hub Message} (free : hub.sending = none) (data : Message) {ch : Nat}
    {c : Channel Message} (accounts : Accounts hub ch c) : Accounts (hub.broadcast data) ch c := by
  obtain ⟨subscribed, joined_le, left_le, reached, accepted, bounded, recorded⟩ := accounts
  have longer : hub.history.length ≤ (hub.history ++ [data]).length := by simp
  refine ⟨subscribed, joined_le.trans longer, fun n closed => (left_le n closed).trans longer, ?_,
    accepted, bounded, recorded⟩
  have idle : hub.pending ch = [] := by simp [Hub.pending, free]
  rw [idle, List.append_nil] at reached
  rw [← reached]
  cases closed : c.left with
  | none =>
      have pending : (hub.broadcast data).pending ch = [(data, hub.history.length)] := by
        simp [Hub.pending, Hub.broadcast, subscribed.mpr closed]
      have started : c.joined ≤ hub.history.zipIdx.length := by simpa using joined_le
      rw [pending, window_open _ closed, window_open _ closed]
      simp [Hub.broadcast, List.zipIdx_append, List.drop_append_of_le_length started]
  | some broadcasts =>
      have apart : ch ∉ hub.subs := by simp [subscribed, closed]
      have pending : (hub.broadcast data).pending ch = [] := by
        simp [Hub.pending, Hub.broadcast, apart]
      rw [pending]
      have within := left_le broadcasts closed
      simp [Hub.window, Hub.broadcast, closed, List.zipIdx_append, List.take_append_of_le_length, within]

theorem Accounts.offer {hub : Hub Message} {sending : Sending Message}
    (busy : hub.sending = some sending) {target : Nat} (here : target ∈ sending.remaining) {ch : Nat}
    (inv : ∀ c, hub.channels[ch]? = some c → Accounts hub ch c) (c : Channel Message)
    (found : (hub.offer sending target).channels[ch]? = some c) : Accounts (hub.offer sending target) ch c := by
  obtain ⟨before, held, rfl⟩ := getElem?_modify_some found
  obtain ⟨subscribed, joined_le, left_le, reached, accepted, bounded, recorded⟩ := inv before held
  by_cases same : target = ch
  · subst same
    have old : hub.pending target = [sending.sent] := by simp [Hub.pending, busy, here]
    have new : (hub.offer sending target).pending target = [] := by simp [Hub.pending, Hub.offer]
    simp only [if_true]
    refine ⟨subscribed, joined_le, left_le, ?_, ?_, ?_, ?_⟩
    · rw [old] at reached
      rw [new, List.append_nil]
      simpa [Hub.window, Hub.offer, Channel.offer] using reached
    · by_cases room : before.queue.length < capacity
      · simp [Channel.offer, room, List.filter_append, ← accepted]
      · simp [Channel.offer, room, List.filter_append, ← accepted]
    · simp only [Channel.offer]
      split
      next room => simpa [Nat.succ_le_iff] using room
      next => exact bounded
    · intro o member
      rcases List.mem_append.mp member with old | new
      · exact recorded o old
      · exact List.mem_singleton.mp new ▸ bounded
  · simp only [if_neg same]
    have pending : (hub.offer sending target).pending ch = hub.pending ch := by
      simp [Hub.pending, Hub.offer, busy, Ne.symm same]
    exact ⟨subscribed, joined_le, left_le, by rw [pending]; exact reached, accepted, bounded, recorded⟩

theorem Accounts.finish {hub : Hub Message} {sending : Sending Message}
    (busy : hub.sending = some sending) (done : sending.remaining = ∅) {ch : Nat}
    {c : Channel Message} (accounts : Accounts hub ch c) :
    Accounts { hub with sending := none } ch c := by
  obtain ⟨subscribed, joined_le, left_le, reached, accepted, bounded, recorded⟩ := accounts
  have old : hub.pending ch = [] := by simp [Hub.pending, busy, done]
  rw [old] at reached
  exact ⟨subscribed, joined_le, left_le, reached, accepted, bounded, recorded⟩

theorem receive_kept (c : Channel Message) :
    c.receive.received ++ c.receive.queue = c.received ++ c.queue ∧
      c.receive.queue.length ≤ c.queue.length := by
  cases queued : c.queue with
  | nil => simp [Channel.receive, queued]
  | cons msg rest => simp [Channel.receive, queued]

@[simp] theorem receive_record (c : Channel Message) :
    c.receive.joined = c.joined ∧ c.receive.left = c.left ∧ c.receive.offered = c.offered := by
  unfold Channel.receive
  split <;> simp

theorem Accounts.receive {hub : Hub Message} {reader ch : Nat}
    (inv : ∀ c, hub.channels[ch]? = some c → Accounts hub ch c) (c : Channel Message)
    (found : (hub.receive reader).channels[ch]? = some c) : Accounts (hub.receive reader) ch c := by
  obtain ⟨before, held, rfl⟩ := getElem?_modify_some found
  obtain ⟨subscribed, joined_le, left_le, reached, accepted, bounded, recorded⟩ := inv before held
  split
  · obtain ⟨joined, left, offered⟩ := receive_record before
    obtain ⟨content, shorter⟩ := receive_kept before
    refine ⟨?_, ?_, ?_, ?_, ?_, shorter.trans bounded, ?_⟩
    · rw [left]; exact subscribed
    · rw [joined]; exact joined_le
    · rw [left]; exact left_le
    · rw [Hub.window, joined, left, offered]; exact reached
    · rw [content, offered]; exact accepted
    · rw [offered]; exact recorded
  · exact ⟨subscribed, joined_le, left_le, reached, accepted, bounded, recorded⟩

def Inv (hub : Hub Message) : Prop :=
  ∀ (ch : Nat) (c : Channel Message), hub.channels[ch]? = some c → Accounts hub ch c

theorem step_inv {hub : Hub Message} (inv : Inv hub) (action : Action Message) :
    Inv (step hub action) := by
  intro ch
  have here := inv ch
  unfold step
  split
  next free => exact Accounts.subscribe free here
  next free =>
    split
    next member => exact Accounts.unsubscribe free member here
    next => exact here
  next free => exact fun c found => (here c found).broadcast free _
  next busy =>
    split
    next member => exact Accounts.offer busy member here
    next => exact here
  next busy =>
    split
    next done => exact fun c found => (here c found).finish busy done
    next => exact here
  next =>
    split
    · exact Accounts.receive here
    · exact here
  next => exact here

/-! ## Subscribers do not see one another -/

theorem Agrees.step {action : Action Message} (part : action.broadcasts = true) {ch : Nat}
    {hub other : Hub Message} (agrees : Agrees ch hub other) :
    Agrees ch (step hub action) (step other action) := by
  obtain ⟨channel, subs, sending, history⟩ := agrees
  cases busy : hub.sending with
  | none =>
      have idle : other.sending = none := sending ▸ busy
      cases action with
      | broadcast data =>
          simp only [SseHub.step, busy, idle]
          exact ⟨channel, subs, by simp [Hub.broadcast, subs, history], by simp [Hub.broadcast, history]⟩
      | offer target => simpa only [SseHub.step, busy, idle] using ⟨channel, subs, sending, history⟩
      | finish => simpa only [SseHub.step, busy, idle] using ⟨channel, subs, sending, history⟩
      | _ => cases part
  | some current =>
      have same : other.sending = some current := sending ▸ busy
      cases action with
      | broadcast data => simpa only [SseHub.step, busy, same] using ⟨channel, subs, sending, history⟩
      | offer target =>
          simp only [SseHub.step, busy, same]
          split
          · exact ⟨by simp only [Hub.offer, List.getElem?_modify, channel], subs, rfl, history⟩
          · exact ⟨channel, subs, sending, history⟩
      | finish =>
          simp only [SseHub.step, busy, same]
          split
          · exact ⟨channel, subs, rfl, history⟩
          · exact ⟨channel, subs, sending, history⟩
      | _ => cases part

/-- No part of a broadcast but an offer touches a channel. -/
theorem step_channels {action : Action Message} (part : action.broadcasts = true)
    (still : ∀ ch, action ≠ .offer ch) (hub : Hub Message) : (step hub action).channels = hub.channels := by
  cases busy : hub.sending <;> cases action with
  | broadcast data => simp [step, busy, Hub.broadcast]
  | offer ch => exact absurd rfl (still ch)
  | finish => simp only [step, busy] <;> split <;> rfl
  | _ => cases part

theorem offer_appends (hub : Hub Message) (target : Nat) {ch : Nat} {c : Channel Message}
    (held : hub.channels[ch]? = some c) :
    ∃ after : Channel Message, (step hub (.offer target)).channels[ch]? = some after ∧
      after.received = c.received ∧
      (after.queue = c.queue ∨
        ∃ sent ∈ hub.pending ch, (Action.offer target : Action Message) = .offer ch ∧
          after.queue = c.queue ++ [sent]) := by
  cases busy : hub.sending with
  | none => exact ⟨c, by simpa [step, busy] using held, rfl, Or.inl rfl⟩
  | some current =>
      simp only [step, busy]
      split
      next here =>
        refine ⟨if target = ch then c.offer current.sent else c, ?_, ?_⟩
        · simp only [Hub.offer, List.getElem?_modify, held]
          split <;> rfl
        · split
          next same =>
            subst same
            refine ⟨rfl, ?_⟩
            by_cases room : c.queue.length < capacity
            · exact Or.inr ⟨current.sent, by simp [Hub.pending, busy, here], rfl, by simp [Channel.offer, room]⟩
            · exact Or.inl (by simp [Channel.offer, room])
          next => exact ⟨rfl, Or.inl rfl⟩
      next => exact ⟨c, held, rfl, Or.inl rfl⟩

theorem isolated_of_broadcasts {action : Action Message} (part : action.broadcasts = true)
    (hub : Hub Message) : Isolated hub action where
  appends := by
    intro ch c held
    by_cases offers : ∃ target, action = .offer target
    · obtain ⟨target, rfl⟩ := offers
      exact offer_appends hub target held
    · have still := step_channels part (fun target same => offers ⟨target, same⟩) hub
      exact ⟨c, by rw [still, held], rfl, Or.inl rfl⟩
  independent := fun _ _ agrees => agrees.step part

/-! ## The history is what was broadcast -/

/-- The message of a broadcast that got the lock. -/
def broadcastIn (t : Transition (Hub Message) (Action Message)) : Option Message :=
  match t.action, t.before.sending with
  | .broadcast data, none => some data
  | _, _ => none

theorem step_history (hub : Hub Message) (action : Action Message) :
    (step hub action).history = hub.history ++ (broadcastIn ⟨hub, action, step hub action⟩).toList := by
  cases busy : hub.sending <;> cases action <;> simp only [step, busy, broadcastIn]
  case none.broadcast => rfl
  all_goals (try split) <;> simp [Hub.subscribe, Hub.unsubscribe, Hub.offer, Hub.receive]

theorem run_history (actions : List (Action Message)) :
    (run step .start actions).history = (transitions step .start actions).filterMap broadcastIn := by
  rw [run_recorded Hub.history (fun t => (broadcastIn t).toList) step_history,
    List.filterMap_eq_flatMap_toList]
  rfl

/-- Under every schedule, each subscriber gets the broadcasts of its time in order and
once, and misses one only for a full queue; no subscriber's queue matters to another. -/
theorem run_delivers (actions : List (Action Message)) :
    (run step .start actions).history = (transitions step .start actions).filterMap broadcastIn ∧
    (∀ ch c, (run step .start actions).channels[ch]? = some c →
      Delivers (run step .start actions) ch c) ∧
    ∀ t ∈ transitions step .start actions, t.action.broadcasts = true → Isolated t.before t.action := by
  refine ⟨run_history actions, fun ch c found => ?_, fun t _ part => ?_⟩
  · have start : Inv (Hub.start : Hub Message) := by
      intro ch c found
      simp [Hub.start] at found
    exact ((invariant Inv (fun _ action inv => step_inv inv action) start actions).1 ch c found).delivers
  · exact isolated_of_broadcasts part t.before

end SprHomeAssistant.Plugin.SseHub
