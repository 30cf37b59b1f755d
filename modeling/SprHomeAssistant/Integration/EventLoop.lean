import SprHomeAssistant.Integration.Stream
import SprHomeAssistant.Library.Runs

/-! The task that keeps the event stream open.

The task ends by itself on an authentication error. Any exception that it does not catch
ends it too, and nothing starts it again while the entry is loaded.
-/

set_option autoImplicit false

namespace SprHomeAssistant.Integration
open Library.Lines Library.Runs Library.Utf8

inductive Task where
  | trying
  | stopped
  | failed (err : PyError)
  deriving DecidableEq

structure EventLoop where
  task : Task
  backoff : Nat
  /-- The delays slept so far, in seconds. -/
  slept : List Nat

def EventLoop.start : EventLoop := ⟨.trying, 5, []⟩

def EventLoop.sleep (loop : EventLoop) (backoff : Nat) : EventLoop :=
  { loop with slept := loop.slept ++ [backoff], backoff := min (backoff * 2) 300 }

/-- One turn of `_event_loop`. A task that has ended makes no attempt. -/
def EventLoop.attempt (reader : LineReader) (loads : String → Except LoadsError Json) (loop : EventLoop)
    (reply : Except TransportError EventStream) : EventLoop :=
  match loop.task with
  | .trying =>
      match (listenEvents reader loads reply).result with
      | .ok () => loop.sleep 5
      | .error (.sprAuthError _) => { loop with task := .stopped }
      | .error (.sprApiError _) => loop.sleep loop.backoff
      | .error err => { loop with task := .failed err }
  | _ => loop

def rejects (reply : Except TransportError EventStream) : Bool :=
  match reply with
  | .ok stream => stream.status = 401 || stream.status = 403
  | .error _ => false

/-- After an attempt the task goes on, unless the server rejected the token. -/
def GoesOn (t : Transition EventLoop (Except TransportError EventStream)) : Prop :=
  t.before.task = .trying →
    t.after.task = .trying ∨ (t.after.task = .stopped ∧ rejects t.action = true)

/-! ## What leaks out of a stream -/

/-- An event's line with a document that is nested too deeply for `json.loads`. -/
def TooDeep (loads : String → Except LoadsError Json) (rawLine : List UInt8) : Prop :=
  isData (decodeLine rawLine) = true ∧
    loads (dataText (decodeLine rawLine)) = .error .recursionError

/-- The stream was accepted, and one of its lines is beyond the limit or too deep. -/
def Leaks (reader : LineReader) (loads : String → Except LoadsError Json)
    (reply : Except TransportError EventStream) : Prop :=
  ∃ stream, reply = .ok stream ∧ stream.status < 400 ∧
    ∃ lines rest, stream.chunks.flatten = lines.flatten ++ rest ∧
      (∀ line ∈ lines, IsLine newline reader.limit line) ∧
      (Overlong newline reader.limit rest ∨
        Unfinished newline reader.limit rest ∧
          ∃ line ∈ lines ++ unterminated stream.drop rest, TooDeep loads line)

variable {reader : LineReader} {loads : String → Except LoadsError Json}

theorem readEvent_cases (loads : String → Except LoadsError Json) (rawLine : List UInt8) :
    (TooDeep loads rawLine ∧ readEvent loads rawLine = .error .recursionError) ∨
      (¬ TooDeep loads rawLine ∧ ∃ event, readEvent loads rawLine = .ok event) := by
  by_cases field : isData (decodeLine rawLine) = true
  · cases parsed : loads (dataText (decodeLine rawLine)) with
    | ok event => exact Or.inr ⟨fun deep => by simp [deep.2] at parsed, some event, readEvent_data rfl field parsed⟩
    | error err =>
        cases err with
        | valueError message =>
            exact Or.inr ⟨fun deep => by simp [deep.2] at parsed, none, readEvent_invalid rfl parsed⟩
        | recursionError => exact Or.inl ⟨⟨field, parsed⟩, readEvent_deep rfl field parsed⟩
  · exact Or.inr ⟨fun deep => field deep.1, none, readEvent_other rfl (by simpa using field)⟩

theorem readEvents_quiet {lines : List (List UInt8)} (shallow : ∀ line ∈ lines, ¬ TooDeep loads line) :
    (readEvents loads lines).2 = none := by
  induction lines with
  | nil => rfl
  | cons rawLine rest ih =>
      obtain ⟨own, others⟩ := List.forall_mem_cons.mp shallow
      obtain ⟨deep, -⟩ | ⟨-, event, read⟩ := readEvent_cases loads rawLine
      · exact absurd deep own
      · simp only [readEvents, read]
        exact ih others

theorem readEvents_deep {lines : List (List UInt8)} (deep : ∃ line ∈ lines, TooDeep loads line) :
    (readEvents loads lines).2 = some .recursionError := by
  induction lines with
  | nil => simp at deep
  | cons rawLine rest ih =>
      obtain ⟨-, read⟩ | ⟨shallow, event, read⟩ := readEvent_cases loads rawLine
      · simp only [readEvents, read]
      · obtain ⟨line, member, deep⟩ := deep
        rcases List.mem_cons.mp member with rfl | member
        · exact absurd deep shallow
        · simp only [readEvents, read]
          exact ih ⟨line, member, deep⟩

/-- How an exception leaves the loop over the lines. -/
theorem readStream_raises {stream : EventStream} {lines : List (List UInt8)} {ended : Option PyError}
    (body : reader.iterate stream.chunks stream.drop = (lines, ended)) {err : PyError}
    (raised : (readEvents loads lines).2 = some err ∨ (readEvents loads lines).2 = none ∧ ended = some err) :
    (readStream reader loads stream).result = .error (wrapDrop err) := by
  unfold readStream
  simp only [body]
  cases read : readEvents loads lines with
  | mk events err =>
      rw [read] at raised
      obtain rfl | ⟨rfl, rfl⟩ := raised <;> rfl

theorem readStream_ends {stream : EventStream} {lines : List (List UInt8)}
    (body : reader.iterate stream.chunks stream.drop = (lines, none))
    (quiet : (readEvents loads lines).2 = none) : (readStream reader loads stream).result = .ok () := by
  unfold readStream
  simp only [body]
  cases read : readEvents loads lines with
  | mk events err =>
      rw [read] at quiet
      obtain rfl : err = none := quiet
      rfl

theorem wrapDrop_raised (err : TransportError) :
    wrapDrop err.raised = .sprApiError ("SSE stream dropped: " ++ err.message) := by
  cases err <;> rfl

theorem listen_accepted {stream : EventStream} (accepted : stream.status < 400) :
    listenEvents reader loads (.ok stream) = readStream reader loads stream := by
  have answered : (stream.status = 401 || stream.status = 403) = false := by simp; omega
  simp only [listenEvents, answered, Bool.false_eq_true, if_false, if_neg (Nat.not_le.mpr accepted)]

/-- An accepted stream that leaks ends with an exception that is no `SprApiError`. -/
theorem listen_leaks {reply : Except TransportError EventStream} (leaks : Leaks reader loads reply) :
    (listenEvents reader loads reply).result = .error .recursionError ∨
      (listenEvents reader loads reply).result = .error (.valueError "Chunk too big") := by
  obtain ⟨stream, rfl, accepted, lines, rest, body, complete, overlong | ⟨unfinished, deep⟩⟩ := leaks
  · have iterated := reader.tooBig stream.drop body complete overlong
    rw [listen_accepted accepted]
    by_cases early : ∃ line ∈ lines, TooDeep loads line
    · exact Or.inl (readStream_raises iterated (Or.inl (readEvents_deep early)))
    · have quiet : (readEvents loads lines).2 = none := readEvents_quiet (by simpa using early)
      exact Or.inr (readStream_raises iterated (Or.inr ⟨quiet, rfl⟩))
  · have iterated := reader.whole stream.drop body complete unfinished
    rw [listen_accepted accepted]
    exact Or.inl (readStream_raises iterated (Or.inl (readEvents_deep deep)))

theorem listen_rejected {reply : Except TransportError EventStream} (rejected : rejects reply = true) :
    (listenEvents reader loads reply).result = .error (.sprAuthError "SPR rejected the API token") := by
  cases reply with
  | error err => cases rejected
  | ok stream =>
      unfold rejects at rejected
      simp only [listenEvents, rejected, if_true]

/-- How an accepted stream ends whose lines were all read. -/
theorem listen_read {stream : EventStream} (accepted : stream.status < 400)
    (tight : ¬ Leaks reader loads (.ok stream)) :
    (listenEvents reader loads (.ok stream)).result =
      match stream.drop with
      | none => .ok ()
      | some err => .error (.sprApiError ("SSE stream dropped: " ++ err.message)) := by
  obtain ⟨lines, rest, body, complete, unfinished | overlong⟩ :=
    exists_lines newline reader.limit stream.chunks.flatten
  · have shallow : ∀ line ∈ lines ++ unterminated stream.drop rest, ¬ TooDeep loads line :=
      fun line member deep => tight ⟨stream, rfl, accepted, lines, rest, body, complete,
        Or.inr ⟨unfinished, line, member, deep⟩⟩
    have iterated := reader.whole stream.drop body complete unfinished
    have quiet := readEvents_quiet shallow
    rw [listen_accepted accepted]
    cases dropped : stream.drop with
    | none =>
        rw [dropped] at iterated quiet
        exact readStream_ends (by rw [dropped]; exact iterated) quiet
    | some err =>
        rw [dropped] at iterated quiet
        rw [readStream_raises (by rw [dropped]; exact iterated) (Or.inr ⟨quiet, rfl⟩), wrapDrop_raised]
  · exact absurd ⟨stream, rfl, accepted, lines, rest, body, complete, Or.inl overlong⟩ tight

theorem listen_refused {stream : EventStream} (answered : rejects (.ok stream) = false)
    (refused : 400 ≤ stream.status) :
    (listenEvents reader loads (.ok stream)).result =
      .error (.sprApiError ("SSE error " ++ toString stream.status)) := by
  unfold rejects at answered
  simp only [listenEvents, answered, Bool.false_eq_true, if_false, if_pos refused]

/-- Nothing else leaves `listen_events` but an `SprApiError`. -/
theorem listen_settles {reply : Except TransportError EventStream} (answered : rejects reply = false)
    (tight : ¬ Leaks reader loads reply) :
    (listenEvents reader loads reply).result = .ok () ∨
      ∃ message, (listenEvents reader loads reply).result = .error (.sprApiError message) := by
  cases reply with
  | error err => exact Or.inr ⟨_, rfl⟩
  | ok stream =>
      rcases Nat.lt_or_ge stream.status 400 with accepted | refused
      · rw [listen_read accepted tight]
        cases stream.drop with
        | none => exact Or.inl rfl
        | some err => exact Or.inr ⟨_, rfl⟩
      · exact Or.inr ⟨_, listen_refused answered refused⟩

/-! ## The task over all its attempts -/

theorem attempt_cases (reader : LineReader) (loads : String → Except LoadsError Json)
    {loop : EventLoop} (trying : loop.task = .trying) (reply : Except TransportError EventStream) :
    (Leaks reader loads reply ∧ ∃ err, (loop.attempt reader loads reply).task = .failed err) ∨
    (¬ Leaks reader loads reply ∧ rejects reply = true ∧
      (loop.attempt reader loads reply).task = .stopped) ∨
    (¬ Leaks reader loads reply ∧ rejects reply = false ∧
      (loop.attempt reader loads reply).task = .trying) := by
  unfold EventLoop.attempt
  rw [trying]
  by_cases leaks : Leaks reader loads reply
  · left
    obtain deep | long := listen_leaks leaks
    · exact ⟨leaks, .recursionError, by simp only [deep]⟩
    · exact ⟨leaks, .valueError "Chunk too big", by simp only [long]⟩
  · right
    cases answered : rejects reply with
    | true => exact Or.inl ⟨leaks, rfl, by simp only [listen_rejected answered]⟩
    | false =>
        obtain closed | ⟨message, dropped⟩ := listen_settles answered leaks
        · exact Or.inr ⟨leaks, rfl, by simp only [closed]; exact trying⟩
        · exact Or.inr ⟨leaks, rfl, by simp only [dropped]; exact trying⟩

theorem leaks_answered {reply : Except TransportError EventStream} (leaks : Leaks reader loads reply) :
    rejects reply = false := by
  obtain ⟨stream, rfl, accepted, -⟩ := leaks
  simp only [rejects, Bool.or_eq_false_iff, decide_eq_false_iff_not]
  omega

/-- Once it has ended, the task makes no further attempt. -/
theorem ended_goesOn {loop : EventLoop} (ended : loop.task ≠ .trying)
    (attempts : List (Except TransportError EventStream)) :
    ∀ t ∈ transitions (EventLoop.attempt reader loads) loop attempts, GoesOn t := by
  have kept : ∀ (loop : EventLoop) (reply : Except TransportError EventStream),
      loop.task ≠ .trying → (loop.attempt reader loads reply).task ≠ .trying := by
    intro loop reply ended
    unfold EventLoop.attempt
    split
    next trying => exact absurd trying ended
    next => exact ended
  intro t member trying
  exact absurd trying ((invariant (fun loop => loop.task ≠ .trying) kept ended attempts).2 t member).1

theorem run_goesOn_of_trying (attempts : List (Except TransportError EventStream)) :
    ∀ {loop : EventLoop}, loop.task = .trying →
      ((∀ t ∈ transitions (EventLoop.attempt reader loads) loop attempts, GoesOn t) ↔
        ∀ reply ∈ attempts.takeWhile fun reply => !rejects reply, ¬ Leaks reader loads reply) := by
  induction attempts with
  | nil => simp [transitions]
  | cons reply rest ih =>
      intro loop trying
      rw [transitions, List.forall_mem_cons]
      obtain ⟨leaks, err, failed⟩ | ⟨tight, rejected, stopped⟩ | ⟨tight, answered, next⟩ :=
        attempt_cases reader loads trying reply
      · rw [List.takeWhile_cons_of_pos (by simp [leaks_answered leaks]), List.forall_mem_cons]
        refine iff_of_false (fun goes => ?_) fun holds => holds.1 leaks
        simpa [failed] using goes.1 trying
      · rw [List.takeWhile_cons_of_neg (by simp [rejected])]
        refine iff_of_true ⟨fun _ => Or.inr ⟨stopped, rejected⟩, ?_⟩ (by simp)
        exact ended_goesOn (by simp [stopped]) rest
      · rw [List.takeWhile_cons_of_pos (by simp [answered]), List.forall_mem_cons, ih next]
        exact and_congr (iff_of_true (fun _ => Or.inl next) tight) Iff.rfl

/-- The task goes on after every attempt that was not rejected exactly when no stream that
it accepts before a rejection has a line beyond the reader's limit or an event nested too
deeply. -/
theorem run_goesOn_iff (reader : LineReader) (loads : String → Except LoadsError Json)
    (attempts : List (Except TransportError EventStream)) :
    (∀ t ∈ transitions (EventLoop.attempt reader loads) .start attempts, GoesOn t) ↔
      ∀ reply ∈ attempts.takeWhile fun reply => !rejects reply, ¬ Leaks reader loads reply :=
  run_goesOn_of_trying attempts rfl

/-- A stream of one line of letters, which does not end. -/
def longLine (length : Nat) : EventStream := ⟨200, [List.replicate length 0x61], none⟩

theorem longLine_leaks {limit length : Nat} (beyond : limit < length)
    (loads : String → Except LoadsError Json) : Leaks (.chunked limit) loads (.ok (longLine length)) := by
  have body : (longLine length).chunks.flatten = [].flatten ++ List.replicate length 0x61 := by
    simp [longLine]
  have letters : newline ∉ (List.replicate length (0x61 : UInt8)).take limit := by
    intro member
    have letter := List.eq_of_mem_replicate (List.mem_of_mem_take member)
    simp [newline] at letter
  have overlong : Overlong newline limit (List.replicate length (0x61 : UInt8)) :=
    ⟨letters, by simpa using beyond⟩
  exact ⟨_, rfl, by simp [longLine], [], _, body, by simp, Or.inl overlong⟩

/-- One byte more than aiohttp's buffer takes ends push until the entry is loaded again. -/
theorem long_line_ends_push :
    ¬ ∀ (reader : LineReader) (loads : String → Except LoadsError Json)
      (attempts : List (Except TransportError EventStream)),
      ∀ t ∈ transitions (EventLoop.attempt reader loads) .start attempts, GoesOn t := by
  intro all
  let loads : String → Except LoadsError Json := fun _ => .error (.valueError "Expecting value")
  have leaks : Leaks (.chunked 131072) loads (.ok (longLine 131073)) :=
    longLine_leaks (Nat.lt_succ_self _) loads
  have goes := all (.chunked 131072) loads [.ok (longLine 131073)] _ List.mem_cons_self rfl
  obtain ⟨-, err, failed⟩ | ⟨tight, -⟩ | ⟨tight, -⟩ :=
    attempt_cases (.chunked 131072) loads (rfl : EventLoop.start.task = .trying) (.ok (longLine 131073))
  · simp [failed] at goes
  · exact tight leaks
  · exact tight leaks

end SprHomeAssistant.Integration
