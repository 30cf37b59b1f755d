import SprHomeAssistant.Plugin.Subscribers
import SprHomeAssistant.System.Framing

/-! The push channel from end to end: the documents that the plugin serves, its hub, a
handler's stream, the bytes on their way, and the callback in Home Assistant.

A stream may be cut off anywhere. What has been read of it by then is a part of what the
handler wrote; only a stream that ends by itself has been read to its end.
-/

set_option autoImplicit false

namespace SprHomeAssistant.System
open Plugin Integration Library.Lines Library.Utf8 Library.Runs

variable {loads : String → Except LoadsError Json}

/-! ## A part of the frames -/

/-- What has been read of the frames that a handler wrote. -/
structure Carried (stream : EventStream) (frames : List Frame) : Prop where
  accepted : stream.status = 200
  part : stream.chunks.flatten <+: frames.flatMap Frame.bytes
  ended : stream.drop = none → stream.chunks.flatten = frames.flatMap Frame.bytes

theorem readEvents_part {first later : List (List UInt8)} (quiet : (readEvents loads (first ++ later)).2 = none) :
    (readEvents loads first).2 = none ∧ (readEvents loads first).1 <+: (readEvents loads (first ++ later)).1 := by
  induction first with
  | nil => exact ⟨rfl, List.nil_prefix⟩
  | cons rawLine first ih =>
      rw [List.cons_append, readEvents] at quiet ⊢
      rw [readEvents]
      cases read : readEvent loads rawLine with
      | error err => simp [read] at quiet
      | ok event =>
          rw [read] at quiet
          obtain ⟨silent, before⟩ := ih quiet
          exact ⟨silent, (List.prefix_append_right_inj event.toList).mpr before⟩

theorem flatMap_lines (frames : List Frame) : (frames.flatMap Frame.lines).flatten = frames.flatMap Frame.bytes := by
  rw [← List.flatMap_id, List.flatMap_assoc]
  simp only [List.flatMap_id, lines_flatten]

/-- What the callback gets of complete lines, and of a rest that is not one. -/
theorem listen_lines (reader : LineReader) {chunks first : List (List UInt8)} {rest : List UInt8}
    {drop : Option TransportError} (body : chunks.flatten = first.flatten ++ rest)
    (complete : ∀ line ∈ first, IsLine newline reader.limit line) (unfinished : Unfinished newline reader.limit rest)
    (nothing : unterminated drop rest = []) (quiet : (readEvents loads first).2 = none) :
    (listenEvents reader loads (.ok ⟨200, chunks, drop⟩)).events = (readEvents loads first).1 := by
  have iterated := reader.whole drop body complete unfinished
  rw [nothing, List.append_nil] at iterated
  simp only [listenEvents, readStream, iterated]
  cases read : readEvents loads first with
  | mk events err =>
      rw [read] at quiet
      obtain rfl : err = none := quiet
      cases drop <;> rfl

/-- The callback gets the first events of the frames, in order, and every event once the
frames have been read. -/
theorem listen_carried (reader : LineReader) {frames : List Frame} {stream : EventStream}
    (carried : Carried stream frames) (inverts : ∀ e ∈ events frames, loads e.marshal = .ok e.document)
    (fits : ∀ frame ∈ frames, ∀ line ∈ frame.lines, line.length ≤ reader.limit) :
    (listenEvents reader loads (.ok stream)).events <+: (events frames).map Event.document ∧
      (stream.chunks.flatten = frames.flatMap Frame.bytes →
        (listenEvents reader loads (.ok stream)).events = (events frames).map Event.document) := by
  obtain ⟨status, chunks, drop⟩ := stream
  obtain ⟨rfl, part, ended⟩ := carried
  simp only at part ended ⊢
  have complete : ∀ line ∈ frames.flatMap Frame.lines, IsLine newline reader.limit line := by
    intro line member
    obtain ⟨frame, written, member⟩ := List.mem_flatMap.mp member
    exact frame_lines (fits frame written) line member
  have read := readEvents_frames inverts
  have whole : chunks.flatten = frames.flatMap Frame.bytes →
      (listenEvents reader loads (.ok ⟨200, chunks, drop⟩)).events = (events frames).map Event.document := by
    intro all
    have body : chunks.flatten = (frames.flatMap Frame.lines).flatten ++ [] := by
      rw [all, flatMap_lines, List.append_nil]
    have nothing : unterminated drop [] = [] := by cases drop <;> rfl
    rw [listen_lines reader body complete ⟨by simp, Nat.zero_le _⟩ nothing (by rw [read]), read]
  refine ⟨?_, whole⟩
  -- a lost connection ends the body somewhere in a line, and that line is given up
  cases drop with
  | none => rw [whole (ended rfl)]
  | some err =>
      rw [← flatMap_lines] at part
      obtain ⟨first, later, rest, split, begun, unfinished⟩ := exists_cut complete part
      rw [split] at read complete
      obtain ⟨quiet, before⟩ := readEvents_part (congrArg Prod.snd read)
      rw [listen_lines reader begun (fun line member => complete line (List.mem_append_left _ member)) unfinished rfl
        quiet]
      rwa [read] at before

/-! ## From a document to the callback -/

/-- What the callback was handed along one stream, beside the documents that were served. -/
structure Handed (s : Service) (opened : List Snapshot) (c : SseHub.Channel Event) (handed : List Json) : Prop where
  joined : c.joined ≤ (differences opened).length
  /-- Each change at most once and in order. -/
  ordered : handed.Sublist (((differences s.snapshots).drop c.joined).map Event.document)
  /-- The document with the change, or a later one, is what a poll reads now. -/
  readable : ∀ document ∈ handed, ∃ e earlier before now later, document = e.document ∧ e ∈ announced before now ∧
    s.snapshots = earlier ++ before :: now :: later ∧ (now :: later).getLast? = some s.process.store.snapshot

/-- Nothing is under way from the plugin to the callback, and the stream's queue never was full. -/
structure Drained (s : Service) (c : SseHub.Channel Event) (stream : EventStream) (frames : List Frame) : Prop where
  returned : s.returned = true
  listening : c.left = none
  taken : c.queue = []
  spacious : ∀ offer ∈ c.offered, offer.2 < SseHub.capacity
  read : stream.chunks.flatten = frames.flatMap Frame.bytes

theorem map_zipIdx_drop {Item : Type} (items : List Item) (start : Nat) :
    (items.zipIdx.drop start).map (·.1) = items.drop start := by
  rw [List.map_drop, List.zipIdx_map_fst]

/-- An open stream whose queue had room got every broadcast since it was opened. -/
theorem received_all {hub : SseHub.Hub Event} {ch : Nat} {c : SseHub.Channel Event}
    (delivers : SseHub.Delivers hub ch c) (idle : hub.sending = none) (listening : c.left = none)
    (taken : c.queue = []) (spacious : ∀ offer ∈ c.offered, offer.2 < SseHub.capacity) :
    c.received.map (·.1) = hub.history.drop c.joined := by
  have window := SseHub.window_open hub listening
  have ordered := delivers.ordered
  rw [taken, List.append_nil, window] at ordered
  -- nothing is left under way, so what is missing would have met a full queue
  have got : ∀ sent ∈ hub.history.zipIdx.drop c.joined, sent ∈ c.received := by
    intro sent member
    by_contra missed
    rw [← window] at member
    have absent : sent ∉ c.received ++ c.queue := by rwa [taken, List.append_nil]
    rcases delivers.missing sent member absent with pending | full
    · simp [SseHub.Hub.pending, idle] at pending
    · exact absurd (spacious _ full) (lt_irrefl _)
  have distinct : (hub.history.zipIdx.drop c.joined).Nodup :=
    ((List.nodup_zipIdx_map_snd hub.history).of_map _).sublist (List.drop_sublist _ _)
  rw [ordered.eq_of_length_le (distinct.subperm got).length_le, map_zipIdx_drop]

/-- Whatever the plugin does after a stream was opened, and wherever the stream is cut off:
the callback is handed changes between the documents served since, each once and in order
and none before a poll can read it, and all of them once the channel is drained. -/
theorem callback_handed (config : Config) (clock : Go.Time) (earlier later : List Service.Action)
    (reader : LineReader) (loads : String → Except LoadsError Json)
    (free : (run (Service.step config) (.start clock) earlier).hub.sending = none) {c : SseHub.Channel Event}
    (found : (run (Service.step config) (.start clock) (earlier ++ .stream .subscribe :: later)).hub.channels[
      (run (Service.step config) (.start clock) earlier).hub.channels.length]? = some c)
    {frames : List Frame} (written : events frames = c.received.map (·.1)) {stream : EventStream}
    (carried : Carried stream frames) (inverts : ∀ e ∈ events frames, loads e.marshal = .ok e.document)
    (fits : ∀ frame ∈ frames, ∀ line ∈ frame.lines, line.length ≤ reader.limit) :
    Handed (run (Service.step config) (.start clock) (earlier ++ .stream .subscribe :: later))
        (run (Service.step config) (.start clock) earlier).snapshots c
        (listenEvents reader loads (.ok stream)).events ∧
      (Drained (run (Service.step config) (.start clock) (earlier ++ .stream .subscribe :: later)) c stream frames →
        (listenEvents reader loads (.ok stream)).events =
          ((differences (run (Service.step config) (.start clock)
            (earlier ++ .stream .subscribe :: later)).snapshots).drop c.joined).map Event.document) := by
  have sends := run_sends config clock (earlier ++ .stream .subscribe :: later)
  have before := run_sends config clock earlier
  obtain ⟨other, there, joined, delivers⟩ := run_subscribed config clock earlier later free
  obtain rfl : c = other := Option.some.inj (found.symm.trans there)
  -- from here on the run matters only through its documents and what the hub has sent
  generalize run (Service.step config) (.start clock) (earlier ++ .stream .subscribe :: later) = s at *
  have opened : c.joined ≤ (differences (run (Service.step config) (.start clock) earlier).snapshots).length := by
    rw [joined, ← before.sent]
    simp
  obtain ⟨begun, whole⟩ := listen_carried reader carried inverts fits
  rw [written] at begun whole
  have ordered : (c.received.map (·.1)).Sublist ((differences s.snapshots).drop c.joined) := by
    have got := ((List.sublist_append_left _ _).trans (receives before sends delivers joined).ordered).map (·.1)
    rwa [map_zipIdx_drop] at got
  refine ⟨⟨opened, begun.sublist.trans (ordered.map _), fun document member => ?_⟩, fun drained => ?_⟩
  · obtain ⟨e, changed, rfl⟩ := List.mem_map.mp (begun.subset member)
    obtain ⟨first, prior, now, rest, split, announces⟩ := mem_differences (List.mem_of_mem_drop (ordered.subset changed))
    refine ⟨e, first, prior, now, rest, rfl, announces, split, ?_⟩
    rw [← sends.served, split, List.getLast?_append_cons, List.getLast?_cons_cons]
  · have done := drained.returned
    simp only [Service.returned, Bool.and_eq_true, List.isEmpty_iff, Option.isNone_iff_eq_none] at done
    have all := sends.sent
    rw [done.1.2, List.append_nil] at all
    rw [whole drained.read, received_all delivers done.2 drained.listening drained.taken drained.spacious, all]

deriving instance DecidableEq for SseHub.Channel

/-- What the second document announces. -/
def stationLeaves : Event := ⟨"device_disconnected", wiredStation, "", ""⟩

def loadsLeaving (text : String) : Except LoadsError Json :=
  if text = stationLeaves.marshal then .ok stationLeaves.document else .error (.valueError "Expecting value")

/-- It has been read, and the connection was lost within the next keep-alive. -/
def lostLater : EventStream :=
  ⟨200, [Frame.keepalive.bytes, (Frame.message stationLeaves).bytes, Frame.keepalive.bytes.take 5], some .timeout⟩

theorem lostLater_carried : Carried lostLater [.keepalive, .message stationLeaves, .keepalive] where
  accepted := rfl
  part := ⟨Frame.keepalive.bytes.drop 5, by
    simp only [lostLater, List.flatMap_cons, List.flatMap_nil, List.flatten_cons, List.flatten_nil, List.append_nil,
      List.append_assoc, List.take_append_drop]⟩
  ended := nofun

def leavingService : Service :=
  run (Service.step .initial) (.start 0) (firstDocument ++ .stream .subscribe :: secondDocument)

def leavingChannel : SseHub.Channel Event := ⟨[], [(stationLeaves, 0)], 0, none, [((stationLeaves, 0), 0)]⟩

theorem leavingChannel_found : leavingService.hub.channels[0]? = some leavingChannel := by decide +kernel

theorem leaving_handed :
    Handed leavingService (run (Service.step .initial) (.start 0) firstDocument).snapshots leavingChannel
        (listenEvents (.chunked 131072) loadsLeaving (.ok lostLater)).events ∧
      (Drained leavingService leavingChannel lostLater [.keepalive, .message stationLeaves, .keepalive] →
        (listenEvents (.chunked 131072) loadsLeaving (.ok lostLater)).events =
          ((differences leavingService.snapshots).drop leavingChannel.joined).map Event.document) :=
  callback_handed .initial 0 firstDocument secondDocument (.chunked 131072) loadsLeaving (by decide +kernel)
    leavingChannel_found (by decide +kernel) lostLater_carried (by decide +kernel) (by decide +kernel)

end SprHomeAssistant.System
