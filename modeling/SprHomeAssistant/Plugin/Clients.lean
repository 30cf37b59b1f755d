import Mathlib.Data.Prod.Lex
import SprHomeAssistant.Library.Disturbance
import SprHomeAssistant.Plugin.Subscribers

/-! The clients of the event streams and the plugin that publishes to them.

A client opens a stream, takes from it or leaves it full, and goes. The hub is all that the
clients share with the rest of the program.
-/

set_option autoImplicit false

namespace SprHomeAssistant.Plugin
open Library.Runs Library.Disturbance

/-- What a client does, through the handler of its stream. -/
def Service.Action.isClients : Service.Action → Bool
  | .stream .subscribe | .stream (.unsubscribe _) | .stream (.receive _) => true
  | _ => false

theorem client_sending {action : SseHub.Action Event} (clients : (Service.Action.stream action).isClients = true)
    (hub : SseHub.Hub Event) :
    (SseHub.step hub action).sending = hub.sending ∧ (SseHub.step hub action).history = hub.history := by
  cases action with
  | subscribe => cases sending : hub.sending <;> simp [SseHub.step, sending, SseHub.Hub.subscribe]
  | unsubscribe ch =>
      cases sending : hub.sending with
      | none =>
          simp only [SseHub.step, sending]
          split
          · exact ⟨sending, rfl⟩
          · exact ⟨sending, rfl⟩
      | some under => simp [SseHub.step, sending]
  | receive ch =>
      simp only [SseHub.step]
      split <;> exact ⟨rfl, rfl⟩
  | _ => cases clients

/-! ## With clients and without them -/

/-- A hub and one that nobody has subscribed to, with the same broadcasts. -/
structure Unheard (hub alone : SseHub.Hub Event) : Prop where
  history : alone.history = hub.history
  subs : alone.subs = ∅
  sending : alone.sending = hub.sending.map fun sending => ⟨sending.sent, ∅⟩

theorem Unheard.isNone {hub alone : SseHub.Hub Event} (unheard : Unheard hub alone) :
    alone.sending.isNone = hub.sending.isNone := by
  rw [unheard.sending, Option.isNone_map]

theorem Unheard.broadcast {hub alone : SseHub.Hub Event} (unheard : Unheard hub alone) (e : Event) :
    Unheard (SseHub.step hub (.broadcast e)) (SseHub.step alone (.broadcast e)) := by
  have free := unheard.sending
  cases sending : hub.sending with
  | none =>
      rw [sending, Option.map_none] at free
      simp only [SseHub.step, sending, free]
      refine ⟨?_, unheard.subs, ?_⟩
      · rw [SseHub.Hub.broadcast, SseHub.Hub.broadcast, unheard.history]
      · rw [SseHub.Hub.broadcast, SseHub.Hub.broadcast, unheard.history, unheard.subs]
        rfl
  | some under =>
      rw [sending, Option.map_some] at free
      simpa only [SseHub.step, sending, free] using unheard

theorem Unheard.aside {hub alone next : SseHub.Hub Event} (unheard : Unheard hub alone)
    (history : next.history = hub.history)
    (sending : next.sending.map SseHub.Sending.sent = hub.sending.map SseHub.Sending.sent) : Unheard next alone := by
  refine ⟨unheard.history.trans history.symm, unheard.subs, unheard.sending.trans ?_⟩
  have same := congrArg (Option.map fun sent : SseHub.Sent Event => (⟨sent, ∅⟩ : SseHub.Sending Event)) sending
  rw [Option.map_map, Option.map_map] at same
  exact same.symm

/-- A step of a stream passes the other hub by, unless it ends a broadcast. -/
theorem Unheard.stream {hub alone : SseHub.Hub Event} (unheard : Unheard hub alone) {action : SseHub.Action Event}
    (own : ∀ e, action ≠ .broadcast e) :
    Unheard (SseHub.step hub action) alone ∨
      action = .finish ∧ Unheard (SseHub.step hub action) (SseHub.step alone action) := by
  by_cases clients : (Service.Action.stream action).isClients = true
  · have kept := client_sending clients hub
    exact Or.inl (unheard.aside kept.2 (by rw [kept.1]))
  cases action with
  | broadcast e => exact absurd rfl (own e)
  | offer ch =>
      left
      cases sending : hub.sending with
      | none => simpa only [SseHub.step, sending] using unheard
      | some under =>
          simp only [SseHub.step, sending]
          split
          · exact unheard.aside rfl (by rw [sending]; rfl)
          · exact unheard
  -- a finish with clients left to offer to changes nothing; alone there are none
  | finish =>
      cases sending : hub.sending with
      | none => exact Or.inl (by simpa only [SseHub.step, sending] using unheard)
      | some sent =>
          have under := unheard.sending
          rw [sending, Option.map_some] at under
          by_cases nobody : sent.remaining = ∅
          · refine Or.inr ⟨rfl, ?_⟩
            simp only [SseHub.step, sending, under, nobody, if_true]
            exact ⟨unheard.history, unheard.subs, rfl⟩
          · exact Or.inl (by simpa only [SseHub.step, sending, nobody, if_false] using unheard)
  | _ => exact absurd rfl clients

/-- The same program at the same point, without its clients. -/
structure Service.Alone (s alone : Service) : Prop where
  same : alone = { s with hub := alone.hub }
  hub : Unheard s.hub alone.hub

/-- Outside of a broadcast and a stream, all that counts of the hub is whether a broadcast is
under way. -/
theorem Service.step_hub (config : Config) (s : Service) {hub : SseHub.Hub Event}
    (free : hub.sending.isNone = s.hub.sending.isNone) {action : Service.Action} (apart : action ≠ .broadcast)
    (streamless : ∀ moved, action ≠ .stream moved) :
    Service.step config { s with hub := hub } action = { Service.step config s action with hub := hub } ∧
      (Service.step config s action).hub = s.hub := by
  cases action with
  | broadcast => exact absurd rfl apart
  | stream moved => exact absurd rfl (streamless moved)
  | handleBusEvent topic value =>
      simp only [Service.step, Service.handleBusEvent]
      split <;> exact ⟨rfl, rfl⟩
  | markSeen handler =>
      simp only [Service.step, Service.markSeen]
      split <;> exact ⟨rfl, rfl⟩
  | requestRefresh =>
      simp only [Service.step, Service.requestRefresh]
      split <;> exact ⟨rfl, rfl⟩
  | advance =>
      have returned : Service.returned { s with hub := hub } = s.returned := by
        simp only [Service.returned, free]
      simp only [Service.step, Service.advance, returned]
      split
      · exact ⟨rfl, rfl⟩
      · exact ⟨rfl, rfl⟩
      · split <;> exact ⟨rfl, rfl⟩
      all_goals exact ⟨rfl, rfl⟩
  | publish =>
      simp only [Service.step, Service.publish]
      split <;> exact ⟨rfl, rfl⟩
  | _ => exact ⟨rfl, rfl⟩

theorem Service.broadcast_cases (s : Service) :
    (∃ e rest, s.unsent = e :: rest ∧ s.hub.sending = none ∧
      s.broadcast = { s with unsent := rest, hub := SseHub.step s.hub (.broadcast e) }) ∨
    ((s.unsent = [] ∨ s.hub.sending.isNone = false) ∧ s.broadcast = s) := by
  unfold Service.broadcast
  split
  next e rest unsent free => exact Or.inl ⟨e, rest, unsent, free, rfl⟩
  next other =>
    refine Or.inr ⟨?_, rfl⟩
    cases unsent : s.unsent with
    | nil => exact Or.inl rfl
    | cons e rest =>
        cases sending : s.hub.sending with
        | none => exact absurd sending (other e rest unsent)
        | some under => exact Or.inr rfl

theorem Service.Alone.broadcast {s : Service} {hub : SseHub.Hub Event} (unheard : Unheard s.hub hub) :
    s.broadcast.Alone (Service.broadcast { s with hub := hub }) := by
  have free := unheard.isNone
  rcases Service.broadcast_cases s with ⟨e, rest, unsent, sending, sent⟩ | ⟨nothing, still⟩
  · rw [sending] at free
    rcases Service.broadcast_cases { s with hub := hub } with ⟨e', rest', unsent', -, sent'⟩ | ⟨nothing, -⟩
    · obtain ⟨rfl, rfl⟩ := List.cons.inj (unsent.symm.trans unsent')
      rw [sent, sent']
      exact ⟨rfl, unheard.broadcast e⟩
    · simp [unsent, free] at nothing
  · rcases Service.broadcast_cases { s with hub := hub } with ⟨e', rest', unsent', sending', -⟩ | ⟨-, still'⟩
    · simp only at unsent' sending'
      simp [unsent', ← free, sending'] at nothing
    · rw [still, still']
      exact ⟨rfl, unheard⟩

theorem Service.Alone.step (config : Config) {s alone : Service} (both : s.Alone alone) (action : Service.Action) :
    (Service.step config s action).Alone alone ∨
      action.isClients = false ∧ (Service.step config s action).Alone (Service.step config alone action) := by
  obtain ⟨same, unheard⟩ := both
  generalize alone.hub = hub at same unheard
  subst same
  by_cases streaming : ∃ moved, action = .stream moved
  · obtain ⟨moved, rfl⟩ := streaming
    by_cases broadcasts : ∃ e, moved = .broadcast e
    · obtain ⟨e, rfl⟩ := broadcasts
      exact Or.inl ⟨rfl, unheard⟩
    -- the other streams' actions are a client's, or end a broadcast that has nobody left
    · have streams : ∀ t : Service, Service.step config t (.stream moved) =
          { t with hub := SseHub.step t.hub moved } := by
        intro t
        cases moved with
        | broadcast e => exact absurd ⟨e, rfl⟩ broadcasts
        | _ => rfl
      rw [streams, streams]
      rcases unheard.stream (fun e same => broadcasts ⟨e, same⟩) with aside | ⟨rfl, ends⟩
      · exact Or.inl ⟨rfl, aside⟩
      · exact Or.inr ⟨rfl, rfl, ends⟩
  · refine Or.inr ⟨?_, ?_⟩
    · cases action with
      | stream moved => exact absurd ⟨moved, rfl⟩ streaming
      | _ => rfl
    by_cases broadcast : action = .broadcast
    · subst broadcast
      exact Service.Alone.broadcast unheard
    · obtain ⟨stepped, kept⟩ := Service.step_hub config s unheard.isNone broadcast
        fun moved same => streaming ⟨moved, same⟩
      rw [stepped]
      exact ⟨rfl, kept ▸ unheard⟩

/-- What the plugin does and publishes among any clients, it also does and publishes without
them, in a run with no other steps than those of its own that it took among them. -/
theorem run_withoutClients (config : Config) (clock : Go.Time) (actions : List Service.Action) :
    ∃ own : List Service.Action, own.Sublist actions ∧ (∀ action ∈ own, action.isClients = false) ∧
      (run (Service.step config) (.start clock) actions).Alone (run (Service.step config) (.start clock) own) := by
  have steps : ∀ s alone : Service, ∀ action, s.Alone alone → (Service.step config s action).Alone alone ∨
      action.isClients = false ∧ (Service.step config s action).Alone (Service.step config alone action) :=
    fun _ _ action both => both.step config action
  have initial : (Service.start clock).Alone (.start clock) := ⟨rfl, rfl, rfl, rfl⟩
  exact exists_alone steps initial actions

/-! ## To the end of a refresh -/

/-- A range over the subscribers goes on with any of those that are left. -/
def Ranges (choose : Service → Nat) : Prop :=
  ∀ s sending, s.hub.sending = some sending → sending.remaining.Nonempty → choose s ∈ sending.remaining

/-- The next statement of a refresh that has published. -/
def Service.next (choose : Service → Nat) (s : Service) : Service.Action :=
  match s.hub.sending with
  | none => .broadcast
  | some sending => if sending.remaining = ∅ then .stream .finish else .stream (.offer (choose s))

/-- What goes on beside a refresh: the clients, the clock and its ticker, and the bus. -/
def Service.Action.isBeside : Service.Action → Bool
  | .pass _ | .tick | .handleBusEvent _ _ | .markSeen _ | .requestRefresh => true
  | action => action.isClients

/-- The events and the broadcast that are left, and the subscribers that the broadcast has
not come to. -/
def Service.left (s : Service) : ℕ ×ₗ ℕ :=
  match s.hub.sending with
  | none => toLex (2 * s.unsent.length, 0)
  | some sending => toLex (2 * s.unsent.length + 1, sending.remaining.card)

/-- What goes on beside a refresh leaves alone what it has left to do. -/
theorem Service.step_beside (config : Config) (s : Service) {action : Service.Action}
    (beside : action.isBeside = true) :
    (Service.step config s action).unsent = s.unsent ∧
      (Service.step config s action).process.phase = s.process.phase ∧
      (Service.step config s action).hub.sending = s.hub.sending ∧
      (Service.step config s action).hub.history = s.hub.history := by
  cases action with
  | pass elapsed => exact ⟨rfl, rfl, rfl, rfl⟩
  | tick => exact ⟨rfl, rfl, rfl, rfl⟩
  | handleBusEvent topic value =>
      simp only [Service.step, Service.handleBusEvent]
      split
      · exact ⟨rfl, (step_handleBusEvent _ _ _).1, rfl, rfl⟩
      · exact ⟨rfl, rfl, rfl, rfl⟩
  | markSeen handler =>
      simp only [Service.step, Service.markSeen]
      split
      · exact ⟨rfl, step_markSeen_phase _ _, rfl, rfl⟩
      · exact ⟨rfl, rfl, rfl, rfl⟩
  | requestRefresh =>
      simp only [Service.step, Service.requestRefresh]
      split <;> exact ⟨rfl, rfl, rfl, rfl⟩
  | stream action =>
      have clients : (Service.Action.stream action).isClients = true := beside
      cases action with
      | broadcast e => cases clients
      | _ => exact ⟨rfl, rfl, client_sending clients _⟩
  | _ => cases beside

/-- Where a refresh that has published has got to. -/
theorem Service.step_next (config : Config) {choose : Service → Nat} (ranges : Ranges choose) (s : Service) :
    (s.unsent = [] ∧ s.hub.sending = none ∧ Service.step config s (s.next choose) = s) ∨
    (∃ e rest, s.unsent = e :: rest ∧ s.hub.sending = none ∧
      Service.step config s (s.next choose) = { s with unsent := rest, hub := s.hub.broadcast e }) ∨
    ∃ sending, s.hub.sending = some sending ∧
      ((∃ ch ∈ sending.remaining, Service.step config s (s.next choose) = { s with hub := s.hub.offer sending ch }) ∨
        Service.step config s (s.next choose) = { s with hub := { s.hub with sending := none } }) := by
  cases sending : s.hub.sending with
  | none =>
      simp only [Service.next, sending, Service.step]
      rcases Service.broadcast_cases s with ⟨e, rest, unsent, -, sent⟩ | ⟨nothing, still⟩
      · refine Or.inr (Or.inl ⟨e, rest, unsent, trivial, ?_⟩)
        simp only [sent, SseHub.step, sending]
      · refine Or.inl ⟨?_, trivial, still⟩
        simpa [sending] using nothing
  | some under =>
      refine Or.inr (Or.inr ⟨under, rfl, ?_⟩)
      simp only [Service.next, sending]
      split
      next none => exact Or.inr (by simp only [Service.step, Service.stream, SseHub.step, sending, none, if_true])
      next more =>
        have waiting := ranges s under sending (Finset.nonempty_iff_ne_empty.mpr more)
        refine Or.inl ⟨_, waiting, ?_⟩
        simp only [Service.step, Service.stream, SseHub.step, sending, waiting, if_true]

theorem Service.next_closer (config : Config) {choose : Service → Nat} (ranges : Ranges choose) {s : Service}
    (more : ¬ (s.unsent = [] ∧ s.hub.sending = none)) :
    (Service.step config s (s.next choose)).left < s.left := by
  rcases Service.step_next config ranges s with ⟨unsent, sending, -⟩ | ⟨e, rest, unsent, free, sent⟩ |
      ⟨sending, under, ⟨ch, waiting, offered⟩ | finished⟩
  · exact absurd ⟨unsent, sending⟩ more
  · simp only [sent, Service.left, SseHub.Hub.broadcast, free, unsent, List.length_cons]
    exact Prod.Lex.toLex_lt_toLex.mpr (Or.inl (by omega))
  · simp only [offered, Service.left, SseHub.Hub.offer, under]
    exact Prod.Lex.toLex_lt_toLex.mpr (Or.inr ⟨rfl, Finset.card_erase_lt_of_mem waiting⟩)
  · simp only [finished, Service.left, under]
    exact Prod.Lex.toLex_lt_toLex.mpr (Or.inl (by omega))

/-- The refresh has published; these are all events up to its last one. -/
def Service.Announces (events : List Event) (s : Service) : Prop :=
  s.process.phase.isIdle = true ∧ s.hub.history ++ s.unsent = events

theorem Service.next_announces (config : Config) {choose : Service → Nat} (ranges : Ranges choose)
    {events : List Event} {s : Service} (announces : s.Announces events) :
    (Service.step config s (s.next choose)).Announces events := by
  obtain ⟨idle, all⟩ := announces
  rcases Service.step_next config ranges s with ⟨-, -, still⟩ | ⟨e, rest, unsent, -, sent⟩ |
      ⟨sending, -, ⟨ch, -, offered⟩ | finished⟩
  · rw [still]
    exact ⟨idle, all⟩
  · rw [sent]
    refine ⟨idle, ?_⟩
    rw [SseHub.Hub.broadcast, ← all, unsent, List.append_assoc, List.singleton_append]
  · rw [offered]
    exact ⟨idle, all⟩
  · rw [finished]
    exact ⟨idle, all⟩

theorem Service.beside_announces (config : Config) {events : List Event} {s : Service} {action : Service.Action}
    (beside : action.isBeside = true) (announces : s.Announces events) :
    (Service.step config s action).Announces events := by
  obtain ⟨unsent, phase, -, history⟩ := Service.step_beside config s beside
  rwa [Service.Announces, unsent, phase, history]

/-- A refresh that has published broadcasts all that it found and returns, in whatever order
it ranges over the subscribers and whatever goes on beside it between its steps. -/
theorem published_returns (config : Config) (choose : Service → Nat) (ranges : Ranges choose) (s : Service)
    (idle : s.process.phase.isIdle = true) (others : ℕ → List Service.Action)
    (beside : ∀ n, ∀ action ∈ others n, action.isBeside = true) :
    ∃ n, (rounds (Service.step config) (Service.next choose) s others n).returned = true ∧
      (rounds (Service.step config) (Service.next choose) s others n).hub.history = s.hub.history ++ s.unsent := by
  have closer : ∀ t : Service, ¬ (t.unsent = [] ∧ t.hub.sending = none) →
      (Service.step config t (t.next choose)).left < t.left := fun _ more => Service.next_closer config ranges more
  have aside : ∀ t action, action.isBeside = true → (Service.step config t action).left = t.left := by
    intro t action beside
    obtain ⟨unsent, -, sending, -⟩ := Service.step_beside config t beside
    simp only [Service.left, unsent, sending]
  -- what was broadcast and what is unsent together stay the same
  have announces : ∀ n,
      (rounds (Service.step config) (Service.next choose) s others n).Announces (s.hub.history ++ s.unsent) :=
    rounds_holds (fun _ before => Service.next_announces config ranges before)
      (fun _ _ beside before => Service.beside_announces config beside before) ⟨idle, rfl⟩ beside
  obtain ⟨n, unsent, sending⟩ := exists_rounds_done Service.left closer aside s beside
  obtain ⟨published, all⟩ := announces n
  rw [unsent, List.append_nil] at all
  exact ⟨n, by simp [Service.returned, published, unsent, sending], all⟩

/-- The subscriber that came last, of those that are left. -/
def latestWaiting (s : Service) : Nat := (s.hub.sending.map fun sending => sending.remaining.sup id).getD 0

theorem latestWaiting_ranges : Ranges latestWaiting := by
  intro s sending under more
  obtain ⟨ch, waiting, greatest⟩ := Finset.exists_mem_eq_sup sending.remaining more id
  simpa only [latestWaiting, under, Option.map_some, Option.getD_some, greatest, id_eq] using waiting

/-- A second document is published, and streams are opened all the while. -/
theorem secondDocument_returns :
    ∃ n, (rounds (Service.step .initial) (Service.next latestWaiting)
        (run (Service.step .initial) (.start 0) (firstDocument ++ secondDocument.take 11))
        (fun _ => [.stream .subscribe, .pass 1000000000]) n).returned = true ∧
      (rounds (Service.step .initial) (Service.next latestWaiting)
        (run (Service.step .initial) (.start 0) (firstDocument ++ secondDocument.take 11))
        (fun _ => [.stream .subscribe, .pass 1000000000]) n).hub.history =
        (run (Service.step .initial) (.start 0) (firstDocument ++ secondDocument.take 11)).hub.history ++
          (run (Service.step .initial) (.start 0) (firstDocument ++ secondDocument.take 11)).unsent :=
  published_returns .initial latestWaiting latestWaiting_ranges _ (by decide +kernel) _ fun _ action member => by
    rcases List.mem_cons.mp member with rfl | member
    · rfl
    · rw [List.mem_singleton.mp member]
      rfl

end SprHomeAssistant.Plugin
