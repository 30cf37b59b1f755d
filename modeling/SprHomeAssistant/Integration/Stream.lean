import SprHomeAssistant.Integration.Client
import SprHomeAssistant.Library.Lines
import SprHomeAssistant.Library.Utf8

/-! Listening to the event stream.

The body arrives in chunks and is iterated by lines. A line that is not an event is
passed over; what else may go wrong ends the stream with an exception.
-/

set_option autoImplicit false

namespace SprHomeAssistant.Integration
open Library Library.Lines Library.Utf8

/-- What `aiohttp.ClientError` and `asyncio.TimeoutError` are raised for. -/
inductive TransportError where
  | client (message : String)
  | timeout
  deriving DecidableEq

def TransportError.raised : TransportError → PyError
  | .client message => .clientError message
  | .timeout => .timeoutError

def TransportError.message : TransportError → String
  | .client message => message
  | .timeout => ""

/-- What `json.loads` raises: `ValueError`, or `RecursionError` for a document nested too deeply. -/
inductive LoadsError where
  | valueError (message : String)
  | recursionError
  deriving DecidableEq

/-- The lines of a body that ended before its last line did. -/
def unterminated (drop : Option TransportError) (rest : List UInt8) : List (List UInt8) :=
  match drop, rest with
  | none, _ :: _ => [rest]
  | _, _ => []

/-- `async for raw_line in resp.content`, on the chunks that were read before the connection
was closed or dropped: the lines, and the exception that ends them. -/
structure LineReader where
  limit : Nat
  iterate : List (List UInt8) → Option TransportError → List (List UInt8) × Option PyError
  /-- Lines are given as they are, however they were cut into chunks. -/
  whole : ∀ {chunks : List (List UInt8)} (drop : Option TransportError)
    {lines : List (List UInt8)} {rest : List UInt8}, chunks.flatten = lines.flatten ++ rest →
    (∀ line ∈ lines, IsLine newline limit line) → Unfinished newline limit rest →
    iterate chunks drop = (lines ++ unterminated drop rest, drop.map TransportError.raised)
  /-- A line beyond the limit raises `ValueError`. -/
  tooBig : ∀ {chunks : List (List UInt8)} (drop : Option TransportError)
    {lines : List (List UInt8)} {rest : List UInt8}, chunks.flatten = lines.flatten ++ rest →
    (∀ line ∈ lines, IsLine newline limit line) → Overlong newline limit rest →
    iterate chunks drop = (lines, some (.valueError "Chunk too big"))

/-- A reader that takes the chunks as they come. -/
def LineReader.chunked (limit : Nat) : LineReader where
  limit := limit
  iterate chunks drop :=
    match feedChunks newline limit [] chunks with
    | (lines, none) => (lines, some (.valueError "Chunk too big"))
    | (lines, some rest) => (lines ++ unterminated drop rest, drop.map TransportError.raised)
  whole := by
    intro chunks drop lines rest body complete unfinished
    have held : feed newline limit [] rest = ([], some rest) := feed_unfinished unfinished
    rw [feedChunks_eq, body, feed_lines complete, held, List.append_nil]
  tooBig := by
    intro chunks drop lines rest body complete overlong
    rw [feedChunks_eq, body, feed_lines complete, feed_overlong overlong, List.append_nil]

/-- The response to the request for events. -/
structure EventStream where
  status : Nat
  chunks : List (List UInt8)
  drop : Option TransportError

def decodeLine (rawLine : List UInt8) : String := strip (String.ofList (decode rawLine))

def isData (line : String) : Bool := startsWith line "data:"

/-- What follows `data:` on an event's line. -/
def dataText (line : String) : String := strip (String.ofList (line.toList.drop 5))

def readEvent (loads : String → Except LoadsError Json) (rawLine : List UInt8) :
    Except PyError (Option Json) :=
  let line := decodeLine rawLine
  if !isData line then .ok none
  else
    match loads (dataText line) with
    | .ok event => .ok (some event)
    | .error (.valueError _) => .ok none
    | .error .recursionError => .error .recursionError

section
variable {loads : String → Except LoadsError Json} {rawLine : List UInt8} {line : String}

theorem readEvent_other (decoded : decodeLine rawLine = line) (other : isData line = false) :
    readEvent loads rawLine = .ok none := by
  subst decoded
  rw [readEvent, other]
  rfl

theorem readEvent_data {event : Json} (decoded : decodeLine rawLine = line) (field : isData line = true)
    (parsed : loads (dataText line) = .ok event) : readEvent loads rawLine = .ok (some event) := by
  subst decoded
  rw [readEvent, field, parsed]
  rfl

theorem readEvent_invalid {message : String} (decoded : decodeLine rawLine = line)
    (parsed : loads (dataText line) = .error (.valueError message)) :
    readEvent loads rawLine = .ok none := by
  subst decoded
  rw [readEvent, parsed]
  exact ite_self _

theorem readEvent_deep (decoded : decodeLine rawLine = line) (field : isData line = true)
    (parsed : loads (dataText line) = .error .recursionError) :
    readEvent loads rawLine = .error .recursionError := by
  subst decoded
  rw [readEvent, field, parsed]
  rfl

end

/-- The events of the lines, up to an exception. -/
def readEvents (loads : String → Except LoadsError Json) : List (List UInt8) → List Json × Option PyError
  | [] => ([], none)
  | rawLine :: rest =>
      match readEvent loads rawLine with
      | .error err => ([], some err)
      | .ok event =>
          let later := readEvents loads rest
          (event.toList ++ later.1, later.2)

/-- `listen_events`: the events its callback got, and how it ended. -/
structure Listened where
  events : List Json
  result : Except PyError Unit

def wrapDrop (err : PyError) : PyError :=
  match err.transport with
  | some message => .sprApiError ("SSE stream dropped: " ++ message)
  | none => err

def readStream (reader : LineReader) (loads : String → Except LoadsError Json) (stream : EventStream) :
    Listened :=
  let body := reader.iterate stream.chunks stream.drop
  match readEvents loads body.1, body.2 with
  | (events, some err), _ => ⟨events, .error (wrapDrop err)⟩
  | (events, none), some err => ⟨events, .error (wrapDrop err)⟩
  | (events, none), none => ⟨events, .ok ()⟩

def listenEvents (reader : LineReader) (loads : String → Except LoadsError Json)
    (reply : Except TransportError EventStream) : Listened :=
  match reply with
  | .error err => ⟨[], .error (.sprApiError ("SSE connect failed: " ++ err.message))⟩
  | .ok stream =>
      if stream.status = 401 || stream.status = 403 then
        ⟨[], .error (.sprAuthError "SPR rejected the API token")⟩
      else if 400 ≤ stream.status then
        ⟨[], .error (.sprApiError ("SSE error " ++ toString stream.status))⟩
      else readStream reader loads stream

theorem readEvents_append {loads : String → Except LoadsError Json} {first rest : List (List UInt8)}
    (quiet : (readEvents loads first).2 = none) :
    readEvents loads (first ++ rest) =
      ((readEvents loads first).1 ++ (readEvents loads rest).1, (readEvents loads rest).2) := by
  induction first with
  | nil => rfl
  | cons rawLine first ih =>
      rw [List.cons_append, readEvents, readEvents]
      rw [readEvents] at quiet
      cases read : readEvent loads rawLine with
      | error err => simp [read] at quiet
      | ok event =>
          rw [read] at quiet
          simp only [ih quiet, List.append_assoc]

/-- `strip` takes the white space around a text and nothing of the text. -/
theorem strip_between {before after inner : List Char} {first last : Char}
    (leading : ∀ c ∈ before, isPySpace c = true) (trailing : ∀ c ∈ after, isPySpace c = true)
    (opens : isPySpace first = false) (closes : isPySpace last = false) :
    strip (String.ofList (before ++ (first :: (inner ++ [last])) ++ after)) =
      String.ofList (first :: (inner ++ [last])) := by
  have front : (before ++ (first :: (inner ++ [last])) ++ after).dropWhile isPySpace =
      (first :: (inner ++ [last])) ++ after := by
    rw [List.append_assoc, List.dropWhile_append_of_pos leading, List.cons_append,
      List.dropWhile_cons_of_neg (by simp [opens])]
  have back : ((first :: (inner ++ [last])) ++ after).rdropWhile isPySpace =
      first :: (inner ++ [last]) := by
    rw [List.rdropWhile, List.reverse_append,
      List.dropWhile_append_of_pos fun c member => trailing c (List.mem_reverse.mp member),
      ← List.cons_append, List.reverse_append, List.reverse_singleton, List.singleton_append,
      List.dropWhile_cons_of_neg (by simp [closes]), List.reverse_cons, List.reverse_reverse]
  rw [strip, String.toList_ofList, front, back]

end SprHomeAssistant.Integration
