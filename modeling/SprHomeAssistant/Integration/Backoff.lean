import Mathlib
import SprHomeAssistant.Integration.EventLoop

/-! The delays between the attempts to open the event stream.

The delay starts again behind a call that returned. A stream that was dropped does not
return, so the delays of healthy streams add up like those of failed connects.
-/

set_option autoImplicit false

namespace SprHomeAssistant.Integration
open Library.Lines Library.Runs

def established (reply : Except TransportError EventStream) : Bool :=
  match reply with
  | .ok stream => stream.status < 400
  | .error _ => false

def drops (reply : Except TransportError EventStream) : Bool :=
  match reply with
  | .ok stream => stream.status < 400 && stream.drop.isSome
  | .error _ => false

/-- An attempt that failed to connect, or a stream whose lines were all read. -/
def Ordinary (reader : LineReader) (loads : String → Except LoadsError Json)
    (reply : Except TransportError EventStream) : Prop :=
  rejects reply = false ∧ ¬ Leaks reader loads reply

/-- The failed connects since the last established stream. -/
def failedConnects (attempts : List (Except TransportError EventStream)) : Nat :=
  (attempts.rtakeWhile fun reply => !established reply).length

/-- The delay after the last of some attempts counts consecutive failures only. -/
structure CountsFailures (earlier : List (Except TransportError EventStream))
    (reply : Except TransportError EventStream) (delay : Nat) : Prop where
  afterStream : established reply = true → delay = 5
  afterFailure : established reply = false → delay ≤ min 300 (5 * 2 ^ failedConnects (earlier ++ [reply]))

/-- The loop sleeps once after every attempt, for as long as the failures call for. -/
def DelaysCountFailures (reader : LineReader) (loads : String → Except LoadsError Json)
    (attempts : List (Except TransportError EventStream)) : Prop :=
  ∀ earlier reply later, attempts = earlier ++ reply :: later →
    ∃ delay, (run (EventLoop.attempt reader loads) .start (earlier ++ [reply])).slept =
        (run (EventLoop.attempt reader loads) .start earlier).slept ++ [delay] ∧
      CountsFailures earlier reply delay

variable {reader : LineReader} {loads : String → Except LoadsError Json}

/-- One attempt sleeps for five seconds behind a stream that ended, and else for the delay so far. -/
theorem attempt_ordinary {loop : EventLoop} (trying : loop.task = .trying)
    {reply : Except TransportError EventStream} (ordinary : Ordinary reader loads reply) :
    loop.attempt reader loads reply =
      loop.sleep (if established reply && !drops reply then 5 else loop.backoff) := by
  obtain ⟨answered, tight⟩ := ordinary
  unfold EventLoop.attempt
  rw [trying]
  cases reply with
  | error err => rfl
  | ok stream =>
      rcases Nat.lt_or_ge stream.status 400 with accepted | refused
      · simp only [listen_read accepted tight, established, drops, accepted]
        cases stream.drop with
        | none => rfl
        | some err => rfl
      · simp only [listen_refused answered refused, established, Nat.not_lt.mpr refused]
        rfl

@[simp] theorem sleep_task (loop : EventLoop) (backoff : Nat) : (loop.sleep backoff).task = loop.task := rfl

@[simp] theorem sleep_backoff (loop : EventLoop) (backoff : Nat) :
    (loop.sleep backoff).backoff = min (backoff * 2) 300 := rfl

@[simp] theorem sleep_slept (loop : EventLoop) (backoff : Nat) :
    (loop.sleep backoff).slept = loop.slept ++ [backoff] := rfl

/-- The task goes on, and its delay is never under five seconds. -/
theorem run_trying {attempts : List (Except TransportError EventStream)}
    (ordinary : ∀ reply ∈ attempts, Ordinary reader loads reply) :
    (run (EventLoop.attempt reader loads) .start attempts).task = .trying ∧
      5 ≤ (run (EventLoop.attempt reader loads) .start attempts).backoff := by
  induction attempts using List.reverseRecOn with
  | nil => exact ⟨rfl, Nat.le_refl 5⟩
  | append_singleton earlier reply ih =>
      obtain ⟨before, last⟩ := List.forall_mem_append.mp ordinary
      obtain ⟨trying, backoff⟩ := ih before
      rw [run_concat, attempt_ordinary trying (last reply List.mem_cons_self)]
      refine ⟨trying, ?_⟩
      rw [sleep_backoff]
      split <;> omega

theorem run_sleeps {earlier : List (Except TransportError EventStream)}
    (ordinary : ∀ reply ∈ earlier, Ordinary reader loads reply)
    {reply : Except TransportError EventStream} (last : Ordinary reader loads reply) :
    run (EventLoop.attempt reader loads) .start (earlier ++ [reply]) =
      (run (EventLoop.attempt reader loads) .start earlier).sleep
        (if established reply && !drops reply then 5
          else (run (EventLoop.attempt reader loads) .start earlier).backoff) := by
  rw [run_concat, attempt_ordinary (run_trying ordinary).1 last]

/-- After any attempt the next delay has doubled at least once. -/
theorem ten_le_backoff {attempts : List (Except TransportError EventStream)} (some : attempts ≠ [])
    (ordinary : ∀ reply ∈ attempts, Ordinary reader loads reply) :
    10 ≤ (run (EventLoop.attempt reader loads) .start attempts).backoff := by
  obtain none | ⟨earlier, reply, rfl⟩ := List.eq_nil_or_concat' attempts
  · exact absurd none some
  · obtain ⟨before, last⟩ := List.forall_mem_append.mp ordinary
    have floor := (run_trying before).2
    rw [run_sleeps before (last reply List.mem_cons_self), sleep_backoff]
    split <;> omega

theorem failedConnects_failed {reply : Except TransportError EventStream}
    (failed : established reply = false) (earlier : List (Except TransportError EventStream)) :
    failedConnects (earlier ++ [reply]) = failedConnects earlier + 1 := by
  rw [failedConnects, List.rtakeWhile_concat_pos _ _ _ (by simp [failed]), List.length_append,
    List.length_singleton, failedConnects]

/-- Where only the first stream was dropped, the next delay is bounded by the failures so far. -/
theorem run_backoff_le {attempts : List (Except TransportError EventStream)}
    (ordinary : ∀ reply ∈ attempts, Ordinary reader loads reply)
    (held : ∀ reply ∈ attempts.tail, drops reply = false) :
    (run (EventLoop.attempt reader loads) .start attempts).backoff ≤
      min 300 (5 * 2 ^ (failedConnects attempts + 1)) := by
  induction attempts using List.reverseRecOn with
  | nil =>
      rw [run_nil]
      exact (by decide : 5 ≤ min 300 (5 * 2 ^ (0 + 1)))
  | append_singleton earlier reply ih =>
      obtain ⟨before, last⟩ := List.forall_mem_append.mp ordinary
      rw [run_sleeps before (last reply List.mem_cons_self), sleep_backoff, Nat.pow_succ]
      have positive := Nat.one_le_two_pow (n := failedConnects (earlier ++ [reply]))
      cases earlier with
      | nil =>
          -- The first attempt sleeps for five seconds, however it ended.
          rw [run_nil, EventLoop.start, ite_self]
          omega
      | cons first middle =>
          rw [List.cons_append, List.tail_cons, List.forall_mem_append] at held
          have bound := ih before held.1
          have kept := held.2 reply List.mem_cons_self
          cases accepted : established reply with
          | true => simp only [kept, Bool.not_false, Bool.and_self, if_true]; omega
          | false =>
              rw [failedConnects_failed accepted]
              simp only [Bool.false_and, Bool.false_eq_true, if_false]
              omega

theorem established_of_drops {reply : Except TransportError EventStream} (dropped : drops reply = true) :
    established reply = true := by
  cases reply with
  | error err => cases dropped
  | ok stream => exact (Bool.and_eq_true_iff.mp dropped).1

/-- A dropped stream behind another attempt is followed by a delay of ten seconds or more. -/
theorem dropped_waits {earlier : List (Except TransportError EventStream)}
    {reply : Except TransportError EventStream} (some : earlier ≠ [])
    (before : ∀ reply ∈ earlier, Ordinary reader loads reply) (own : Ordinary reader loads reply)
    (dropped : drops reply = true) {delay : Nat}
    (slept : (run (EventLoop.attempt reader loads) .start (earlier ++ [reply])).slept =
      (run (EventLoop.attempt reader loads) .start earlier).slept ++ [delay]) : 10 ≤ delay := by
  have doubled := ten_le_backoff some before
  rw [run_sleeps before own, sleep_slept, List.append_cancel_left_eq] at slept
  have waited := List.head_eq_of_cons_eq slept
  simp only [dropped, Bool.not_true, Bool.and_false, Bool.false_eq_true, if_false] at waited
  omega

/-- Where only the first stream was dropped, the delay counts the failures. -/
theorem countsFailures_of_held {earlier : List (Except TransportError EventStream)}
    {reply : Except TransportError EventStream}
    (before : ∀ reply ∈ earlier, Ordinary reader loads reply)
    (held : ∀ other ∈ (earlier ++ [reply]).tail, drops other = false) :
    CountsFailures earlier reply (if established reply && !drops reply then 5
      else (run (EventLoop.attempt reader loads) .start earlier).backoff) := by
  cases earlier with
  | nil =>
      rw [run_nil, EventLoop.start, ite_self]
      refine ⟨fun _ => rfl, fun failed => ?_⟩
      have positive := Nat.one_le_two_pow (n := failedConnects ([] ++ [reply]))
      omega
  | cons first middle =>
      rw [List.cons_append, List.tail_cons, List.forall_mem_append] at held
      have bound := run_backoff_le before held.1
      have kept := held.2 reply List.mem_cons_self
      refine ⟨fun accepted => by simp [accepted, kept], fun failed => ?_⟩
      rw [failed, failedConnects_failed failed]
      exact bound

/-- The delays count consecutive failures exactly when no stream behind the first attempt
is dropped. -/
theorem delays_count_failures_iff (reader : LineReader) (loads : String → Except LoadsError Json)
    {attempts : List (Except TransportError EventStream)}
    (ordinary : ∀ reply ∈ attempts, Ordinary reader loads reply) :
    DelaysCountFailures reader loads attempts ↔ ∀ reply ∈ attempts.tail, drops reply = false := by
  constructor
  · intro counts reply member
    cases attempts with
    | nil => simp at member
    | cons first rest =>
        obtain ⟨middle, later, rfl⟩ := List.append_of_mem member
        rw [← List.cons_append] at ordinary
        obtain ⟨before, own⟩ := List.forall_mem_append.mp ordinary
        obtain ⟨delay, slept, counted⟩ := counts (first :: middle) reply later rfl
        by_contra dropped
        rw [Bool.not_eq_false] at dropped
        have long := dropped_waits (List.cons_ne_nil first middle) before (own reply List.mem_cons_self) dropped slept
        have five := counted.afterStream (established_of_drops dropped)
        omega
  · rintro held earlier reply later rfl
    obtain ⟨before, own⟩ := List.forall_mem_append.mp ordinary
    refine ⟨_, by rw [run_sleeps before (own reply List.mem_cons_self), sleep_slept], ?_⟩
    refine countsFailures_of_held before fun other member => held other ?_
    rw [List.append_cons earlier reply later, List.tail_append_of_ne_nil (by simp)]
    exact List.mem_append_left later member

theorem ordinary_of_short {stream : EventStream} (accepted : stream.status < 400)
    (short : stream.chunks.flatten.length ≤ reader.limit)
    (shallow : ∀ text, loads text ≠ .error .recursionError) : Ordinary reader loads (.ok stream) := by
  refine ⟨by simp only [rejects, Bool.or_eq_false_iff, decide_eq_false_iff_not]; omega, ?_⟩
  rintro ⟨_, same, -, lines, rest, body, -, overlong | ⟨-, line, -, deep⟩⟩
  · obtain rfl := Except.ok.inj same
    have whole := congrArg List.length body
    rw [List.length_append] at whole
    have beyond : reader.limit < rest.length := overlong.2
    omega
  · exact shallow _ deep.2

/-- A stream that delivers one event and is dropped when the router restarts. -/
def restarted : Except TransportError EventStream :=
  .ok ⟨200, [[0x64, 0x61, 0x74, 0x61, 0x3a, 0x31, 0x0a]], some .timeout⟩

theorem restarted_ordinary : Ordinary (.chunked 131072) (fun _ => .ok .null) restarted :=
  ordinary_of_short (by decide) (by decide) (by simp)

theorem delays_count_failures_oneRestart :
    (∀ reply ∈ [restarted, .error .timeout], Ordinary (.chunked 131072) (fun _ => .ok .null) reply) ∧
      DelaysCountFailures (.chunked 131072) (fun _ => .ok .null) [restarted, .error .timeout] := by
  have refused : Ordinary (.chunked 131072) (fun _ => .ok .null) (.error .timeout) := by
    refine ⟨rfl, ?_⟩
    rintro ⟨stream, same, -⟩
    cases same
  have ordinary : ∀ reply ∈ [restarted, .error .timeout],
      Ordinary (.chunked 131072) (fun _ => .ok .null) reply := by
    simpa using ⟨restarted_ordinary, refused⟩
  exact ⟨ordinary, (delays_count_failures_iff _ _ ordinary).mpr (by decide)⟩

/-- Two healthy streams, each dropped by a restart, are already ten seconds of delay. -/
theorem second_restart_waits_ten :
    ¬ ∀ (reader : LineReader) (loads : String → Except LoadsError Json)
      (attempts : List (Except TransportError EventStream)),
      (∀ reply ∈ attempts, Ordinary reader loads reply) → DelaysCountFailures reader loads attempts := by
  intro all
  have ordinary : ∀ reply ∈ [restarted, restarted],
      Ordinary (.chunked 131072) (fun _ => .ok .null) reply := by
    simpa using restarted_ordinary
  have single : ∀ reply ∈ [restarted], Ordinary (.chunked 131072) (fun _ => .ok .null) reply := by
    simpa using restarted_ordinary
  obtain ⟨delay, slept, counted⟩ := all _ _ _ ordinary [restarted] restarted [] rfl
  have five : delay = 5 := counted.afterStream (by decide)
  have long := dropped_waits (List.cons_ne_nil restarted []) single restarted_ordinary (by decide) slept
  omega

end SprHomeAssistant.Integration
