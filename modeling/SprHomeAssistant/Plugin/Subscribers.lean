import SprHomeAssistant.Plugin.Service

/-! What a subscriber of the event stream gets, beside the documents that a poll reads.

The refresh swaps its snapshot in before it broadcasts what has changed. Nobody who has
received an event can therefore poll a document older than the one it announces.
-/

set_option autoImplicit false

namespace SprHomeAssistant.Plugin
open Go Library.Runs Library.Refinement

/-! ## The changes along the served documents -/

/-- What each document announces beside the one before it. -/
def differences : List Snapshot → List Event
  | before :: now :: rest => announced before now ++ differences (now :: rest)
  | [_] | [] => []

theorem differences_concat {snapshots : List Snapshot} {last : Snapshot} (ends : snapshots.getLast? = some last)
    (next : Snapshot) : differences (snapshots ++ [next]) = differences snapshots ++ announced last next := by
  induction snapshots with
  | nil => cases ends
  | cons first rest ih =>
      cases rest with
      | nil =>
          obtain rfl : first = last := Option.some.inj ends
          simp [differences]
      | cons second rest =>
          have later := ih ends
          simp only [List.cons_append] at later
          simp [differences, later]

/-- Every change is one between two documents that were served one after the other. -/
theorem mem_differences {e : Event} {snapshots : List Snapshot} (changed : e ∈ differences snapshots) :
    ∃ earlier before now later, snapshots = earlier ++ before :: now :: later ∧ e ∈ announced before now := by
  induction snapshots with
  | nil => cases changed
  | cons first rest ih =>
      cases rest with
      | nil => cases changed
      | cons second rest =>
          rcases List.mem_append.mp changed with here | later
          · exact ⟨[], first, second, rest, rfl, here⟩
          · obtain ⟨earlier, before, now, after, split, announces⟩ := ih later
            exact ⟨first :: earlier, before, now, after, by rw [split]; rfl, announces⟩

/-! ## The program broadcasts them all -/

theorem published_announces {p : Process} (fresh : Fresh p) {g : Gathered} {copy : Copied}
    (copied : p.phase = .copied g copy) :
    transitionEvents copy.prevConnected (trackDevices g copy.lastSeen) =
      announced p.store.snapshot (step p .publish).store.snapshot := by
  simp [transitionEvents, announced, fresh g copy copied, step, copied, Process.publish, publish, buildSnapshot,
    Slice.items]

theorem step_snapshot {p : Process} {action : Action} (apart : action ≠ .publish) :
    (step p action).store.snapshot = p.store.snapshot := by
  have did := stepped p action
  generalize step p action = q at did ⊢
  cases did with
  | published copied => exact absurd rfl apart
  | _ => rfl

structure Service.Sends (s : Service) : Prop where
  fresh : Fresh s.process
  served : s.snapshots.getLast? = some s.process.store.snapshot
  sent : s.hub.history ++ s.unsent = differences s.snapshots

theorem start_sends (clock : Time) : (Service.start clock).Sends where
  fresh := start_fresh clock
  served := rfl
  sent := rfl

/-- A step of the process that publishes nothing. -/
theorem Service.Sends.aside {s : Service} (sends : s.Sends) {action : Plugin.Action} (apart : action ≠ .publish)
    {next : Service} (process : next.process = Plugin.step s.process action) (unsent : next.unsent = s.unsent)
    (hub : next.hub = s.hub) (snapshots : next.snapshots = s.snapshots) : next.Sends where
  fresh := by
    rw [process]
    exact (step_publication sends.fresh action).1
  served := by
    rw [snapshots, process, step_snapshot apart]
    exact sends.served
  sent := by
    rw [hub, unsent, snapshots]
    exact sends.sent

/-- A step that leaves the process alone. -/
theorem Service.Sends.beside {s : Service} (sends : s.Sends) {next : Service}
    (process : next.process = s.process) (unsent : next.unsent = s.unsent)
    (hub : next.hub.history = s.hub.history) (snapshots : next.snapshots = s.snapshots) : next.Sends where
  fresh := process ▸ sends.fresh
  served := by rw [snapshots, process, sends.served]
  sent := by rw [hub, unsent, snapshots, sends.sent]

theorem stream_history {hub : SseHub.Hub Event} {action : SseHub.Action Event}
    (own : ∀ e, action ≠ .broadcast e) : (SseHub.step hub action).history = hub.history := by
  unfold SseHub.step
  split
  · rfl
  · split <;> rfl
  · exact absurd rfl (own _)
  · split <;> rfl
  · split <;> rfl
  · split <;> rfl
  · rfl

theorem Service.step_sends (config : Config) {s : Service} (calls : s.Calls) (sends : s.Sends)
    (action : Service.Action) : (Service.step config s action).Sends := by
  have did := Service.moved config s action
  generalize Service.step config s action = next at did ⊢
  cases did with
  | still => exact sends
  | passed elapsed => exact sends.aside (nofun : Plugin.Action.tick elapsed ≠ .publish) rfl rfl rfl rfl
  | sampled topic mac =>
      exact sends.aside (nofun : Plugin.Action.handleBusEvent topic mac ≠ .publish) rfl rfl rfl rfl
  | unsighted => exact sends.beside rfl rfl rfl rfl
  | marked handler => exact sends.aside (nofun : Plugin.Action.markSeen handler ≠ .publish) rfl rfl rfl rfl
  | requested asking => exact sends.beside rfl rfl rfl rfl
  | looped action apart own => exact sends.beside rfl rfl rfl rfl
  | began eventDriven due => exact sends.aside (nofun : Plugin.Action.beginRefresh ≠ .publish) rfl rfl rfl rfl
  | fetched reads => exact sends.aside (nofun : Plugin.Action.fetch reads ≠ .publish) rfl rfl rfl rfl
  | copied => exact sends.aside (nofun : Plugin.Action.copyState ≠ .publish) rfl rfl rfl rfl
  | published copied =>
      -- a refresh publishes once, after the events of the one before are sent
      have none : s.unsent = [] := by
        by_contra more
        have idle := (calls.sending more).2
        rw [copied] at idle
        cases idle
      have sent := sends.sent
      rw [none, List.append_nil] at sent
      refine ⟨(step_publication sends.fresh .publish).1, by simp, ?_⟩
      rw [differences_concat sends.served, sent, published_announces sends.fresh copied]
  | @broadcast e rest unsent free =>
      have history : (SseHub.step s.hub (.broadcast e)).history = s.hub.history ++ [e] := by
        simp [SseHub.step, free, SseHub.Hub.broadcast]
      refine ⟨sends.fresh, sends.served, ?_⟩
      rw [history, ← sends.sent, unsent, List.append_assoc, List.singleton_append]
  | streamed action own => exact sends.beside rfl rfl (stream_history own) rfl

/-! ## One stream -/

/-- A channel keeps its place in the hub and the moment when it was made. -/
theorem step_joined {hub : SseHub.Hub Event} {ch : Nat} {c : SseHub.Channel Event}
    (found : hub.channels[ch]? = some c) (action : SseHub.Action Event) :
    ∃ later : SseHub.Channel Event, (SseHub.step hub action).channels[ch]? = some later ∧
      later.joined = c.joined := by
  have modified : ∀ (i : Nat) (f : SseHub.Channel Event → SseHub.Channel Event),
      (f c).joined = c.joined → ∃ later : SseHub.Channel Event,
        (hub.channels.modify i f)[ch]? = some later ∧ later.joined = c.joined := by
    intro i f same
    refine ⟨if i = ch then f c else c, by simp [List.getElem?_modify, found], ?_⟩
    split
    · exact same
    · rfl
  have still : ∃ later : SseHub.Channel Event, hub.channels[ch]? = some later ∧ later.joined = c.joined :=
    ⟨c, found, rfl⟩
  unfold SseHub.step
  split
  · refine ⟨c, ?_, rfl⟩
    simp only [SseHub.Hub.subscribe]
    rw [List.getElem?_append_left (List.getElem?_eq_some_iff.mp found).1]
    exact found
  · split
    · exact modified _ _ rfl
    · exact still
  · exact still
  · split
    · exact modified _ _ rfl
    · exact still
  · split
    · exact still
    · exact still
  · split
    · exact modified _ _ (SseHub.receive_record c).1
    · exact still
  · exact still

/-- What a stream gets that was opened in some earlier state. -/
structure Receives (opening s : Service) (ch : Nat) (c : SseHub.Channel Event) : Prop where
  joined : c.joined = opening.hub.history.length
  /-- Only what was served by then has been announced by then. -/
  served : opening.hub.history.length ≤ (differences opening.snapshots).length
  /-- In order, each change once, and none whose broadcast began before the stream was opened. -/
  ordered : (c.received ++ c.queue).Sublist ((differences s.snapshots).zipIdx.drop c.joined)
  /-- Nobody is told of a change before a poll can read it. -/
  readable : ∀ sent ∈ c.received, ∃ earlier before now later,
    s.snapshots = earlier ++ before :: now :: later ∧ sent.1 ∈ announced before now
  /-- Until it is closed, it misses no later change but for a full queue. -/
  complete : c.left = none → ∀ sent ∈ (differences s.snapshots).zipIdx, opening.hub.history.length ≤ sent.2 →
    sent ∈ c.received ++ c.queue ∨ (sent, SseHub.capacity) ∈ c.offered ∨
      sent ∈ s.hub.pending ch ∨ s.hub.history.length ≤ sent.2

theorem mem_drop_zipIdx {Item : Type} {items : List Item} {entry : Item × Nat} {start : Nat}
    (place : items[entry.2]? = some entry.1) (since : start ≤ entry.2) : entry ∈ items.zipIdx.drop start := by
  obtain ⟨k, shift⟩ := Nat.exists_eq_add_of_le since
  refine List.mem_iff_getElem?.mpr ⟨k, ?_⟩
  rw [List.getElem?_drop, ← shift, List.getElem?_zipIdx, place]
  simp

theorem receives {opening s : Service} (before : opening.Sends) (sends : s.Sends) {ch : Nat}
    {c : SseHub.Channel Event} (delivers : SseHub.Delivers s.hub ch c)
    (joined : c.joined = opening.hub.history.length) : Receives opening s ch c := by
  have among : s.hub.history.zipIdx <+: (differences s.snapshots).zipIdx := by
    rw [← sends.sent, List.zipIdx_append]
    exact List.prefix_append _ _
  have window : (s.hub.window c).Sublist ((differences s.snapshots).zipIdx.drop c.joined) :=
    ((List.take_sublist _ _).drop _).trans (among.sublist.drop _)
  have ordered := delivers.ordered.trans window
  refine ⟨joined, by simp [← before.sent], ordered, fun sent member => ?_, fun unclosed sent member since => ?_⟩
  · have changed := List.mem_of_mem_drop (ordered.subset (List.mem_append_left _ member))
    obtain ⟨place, index, rfl⟩ := List.mem_iff_getElem.mp changed
    exact mem_differences (by simp)
  -- an event is in the history of the hub, or its broadcast is yet to come
  · by_cases made : sent.2 < s.hub.history.length
    · have broadcast : sent ∈ s.hub.window c := by
        rw [SseHub.window_open _ unclosed]
        refine mem_drop_zipIdx ?_ (joined.trans_le since)
        have place := List.mem_zipIdx_iff_getElem?.mp member
        rwa [← sends.sent, List.getElem?_append_left made] at place
      by_cases got : sent ∈ c.received ++ c.queue
      · exact Or.inl got
      · rcases delivers.missing sent broadcast got with pending | full
        · exact Or.inr (Or.inr (Or.inl pending))
        · exact Or.inr (Or.inl full)
    · exact Or.inr (Or.inr (Or.inr (not_lt.mp made)))

theorem run_sends (config : Config) (clock : Time) (actions : List Service.Action) :
    (run (Service.step config) (.start clock) actions).Sends :=
  (invariant (fun s : Service => s.Calls ∧ s.Sends)
    (fun _ action ⟨calls, sends⟩ => ⟨Service.step_calls config calls action, Service.step_sends config calls sends action⟩)
    ⟨Service.start_calls clock, start_sends clock⟩ actions).1.2

theorem run_joined (config : Config) {ch : Nat} {s : Service} {c : SseHub.Channel Event}
    (found : s.hub.channels[ch]? = some c) (actions : List Service.Action) :
    ∃ later : SseHub.Channel Event, (run (Service.step config) s actions).hub.channels[ch]? = some later ∧
      later.joined = c.joined := by
  obtain ⟨moves, same⟩ := (Service.refines_hub config).run s actions
  rw [same]
  refine (invariant (fun hub : SseHub.Hub Event => ∃ later : SseHub.Channel Event,
    hub.channels[ch]? = some later ∧ later.joined = c.joined) ?_ ⟨c, found, rfl⟩ moves).1
  rintro hub action ⟨earlier, here, joined⟩
  obtain ⟨later, there, kept⟩ := step_joined here action
  exact ⟨later, there, kept.trans joined⟩

theorem reached_delivers {hub : SseHub.Hub Event} (reached : Reached SseHub.step .start hub) {ch : Nat}
    {c : SseHub.Channel Event} (found : hub.channels[ch]? = some c) : SseHub.Delivers hub ch c := by
  have start : SseHub.Inv (SseHub.Hub.start : SseHub.Hub Event) := by
    intro ch c found
    simp [SseHub.Hub.start] at found
  obtain ⟨moves, rfl⟩ := reached
  exact ((invariant SseHub.Inv (fun _ action inv => SseHub.step_inv inv action) start moves).1 ch c found).delivers

/-- The channel of a stream, in any run after it was opened. -/
theorem run_subscribed (config : Config) (clock : Time) (earlier later : List Service.Action)
    (free : (run (Service.step config) (.start clock) earlier).hub.sending = none) :
    ∃ c, (run (Service.step config) (.start clock) (earlier ++ .stream .subscribe :: later)).hub.channels[
        (run (Service.step config) (.start clock) earlier).hub.channels.length]? = some c ∧
      c.joined = (run (Service.step config) (.start clock) earlier).hub.history.length ∧
      SseHub.Delivers (run (Service.step config) (.start clock) (earlier ++ .stream .subscribe :: later)).hub
        (run (Service.step config) (.start clock) earlier).hub.channels.length c := by
  have whole := (Service.refines_hub config).run (.start clock) (earlier ++ .stream .subscribe :: later)
  rw [run_append, run_cons] at whole ⊢
  generalize run (Service.step config) (.start clock) earlier = s at free whole ⊢
  have opened : (Service.step config s (.stream .subscribe)).hub.channels[s.hub.channels.length]? =
      some ⟨[], [], s.hub.history.length, none, []⟩ := by
    simp [Service.step, Service.stream, SseHub.step, free, SseHub.Hub.subscribe]
  obtain ⟨c, found, joined⟩ := run_joined config opened later
  exact ⟨c, found, joined, reached_delivers whole found⟩

/-- A stream that is opened in any state of any run gets the changes between the documents
that are served from then on: in order, once each, none before a poll can read it, and all
but those for which its queue was full. -/
theorem stream_receives (config : Config) (clock : Time) (earlier later : List Service.Action)
    (free : (run (Service.step config) (.start clock) earlier).hub.sending = none) :
    ∃ c, (run (Service.step config) (.start clock) (earlier ++ .stream .subscribe :: later)).hub.channels[
        (run (Service.step config) (.start clock) earlier).hub.channels.length]? = some c ∧
      Receives (run (Service.step config) (.start clock) earlier)
        (run (Service.step config) (.start clock) (earlier ++ .stream .subscribe :: later))
        (run (Service.step config) (.start clock) earlier).hub.channels.length c := by
  obtain ⟨c, found, joined, delivers⟩ := run_subscribed config clock earlier later free
  exact ⟨c, found, receives (run_sends config clock earlier) (run_sends config clock _) delivers joined⟩

/-- The refresh that the program starts with. -/
def firstDocument : List Service.Action := [.advance, .fetch learnedReads, .copyState, .publish]

/-- The next one, whose one event the first stream takes. -/
def secondDocument : List Service.Action :=
  [.advance, .advance, .advance, .pass 30000000000, .tick, .receiveTick, .advance, .advance,
    .fetch (tableOnly (AList.singleton wiredStation (plainEntry ""))), .copyState, .publish, .broadcast,
    .stream (.offer 0), .stream .finish, .stream (.receive 0)]

theorem secondDocument_received :
    ∃ c, (run (Service.step .initial) (.start 0) (firstDocument ++ .stream .subscribe ::
        secondDocument)).hub.channels[0]? = some c ∧
      Receives (run (Service.step .initial) (.start 0) firstDocument)
        (run (Service.step .initial) (.start 0) (firstDocument ++ .stream .subscribe :: secondDocument)) 0 c :=
  stream_receives .initial 0 firstDocument secondDocument (by decide +kernel)

end SprHomeAssistant.Plugin
