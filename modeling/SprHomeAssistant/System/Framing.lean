import SprHomeAssistant.Integration.Stream
import SprHomeAssistant.Plugin.EventStream

/-! What Home Assistant reads from the stream that the plugin writes. -/

set_option autoImplicit false

namespace SprHomeAssistant.System
open Plugin Integration Library.Lines Library.Utf8

variable {loads : String → Except LoadsError Json}

theorem decodeLine_text {first last : Char} {inner : List Char} (opens : isPySpace first = false)
    (closes : isPySpace last = false) :
    decodeLine (encode (first :: (inner ++ [last])) ++ [newline]) =
      String.ofList (first :: (inner ++ [last])) := by
  have line : encode (first :: (inner ++ [last])) ++ [newline] =
      encode (first :: (inner ++ [last]) ++ ['\n']) := by
    rw [encode_append]
    rfl
  have ends : ∀ c ∈ ['\n'], isPySpace c = true := by
    intro c member
    rw [List.mem_singleton.mp member]
    decide +kernel
  rw [decodeLine, line, decode_encode, ← List.nil_append (first :: (inner ++ [last]))]
  exact strip_between (by simp) ends opens closes

theorem readEvent_keepalive : readEvent loads (encode ": keepalive".toList ++ [newline]) = .ok none :=
  have line : decodeLine (encode ": keepalive".toList ++ [newline]) = ": keepalive" := by decide +kernel
  readEvent_other line (by decide +kernel)

theorem readEvent_blank : readEvent loads [newline] = .ok none :=
  have line : decodeLine [newline] = "" := by decide +kernel
  readEvent_other line (by decide +kernel)

theorem marshal_toList (e : Event) : e.marshal.toList = '\x7b' :: (e.fields.toList ++ ['\x7d']) := by
  simp [Event.marshal, String.toList_append]

theorem readEvent_message {e : Event} (inverts : loads e.marshal = .ok e.document) :
    readEvent loads (encode ("data: " ++ e.marshal).toList ++ [newline]) = .ok (some e.document) := by
  have space : isPySpace 'd' = false ∧ isPySpace '\x7b' = false ∧ isPySpace '\x7d' = false ∧
      isPySpace ' ' = true := by decide +kernel
  have text : ("data: " ++ e.marshal).toList =
      'd' :: (['a', 't', 'a', ':', ' ', '\x7b'] ++ e.fields.toList ++ ['\x7d']) := by
    simp [String.toList_append, marshal_toList]
  have line : decodeLine (encode ("data: " ++ e.marshal).toList ++ [newline]) = "data: " ++ e.marshal := by
    rw [text, decodeLine_text space.1 space.2.2.1, ← text, String.ofList_toList]
  have field : isData ("data: " ++ e.marshal) = true := by
    simp [isData, startsWith, String.toList_append]
  have data : dataText ("data: " ++ e.marshal) = e.marshal := by
    have rest : ("data: " ++ e.marshal).toList.drop 5 =
        [' '] ++ ('\x7b' :: (e.fields.toList ++ ['\x7d'])) ++ [] := by
      simp [String.toList_append, marshal_toList]
    have padding : ∀ c ∈ [' '], isPySpace c = true := by simp [space.2.2.2]
    rw [dataText, rest, strip_between padding (by simp) space.2.1 space.2.2.1, ← marshal_toList,
      String.ofList_toList]
  exact readEvent_data line field (data.symm ▸ inverts)

theorem readEvents_pair {first second : List UInt8} {event : Option Json}
    (read : readEvent loads first = .ok event) (blank : readEvent loads second = .ok none) :
    readEvents loads [first, second] = (event.toList, none) := by
  simp only [readEvents, read, blank, Option.toList_none, List.append_nil]

/-- The event of a frame is read from its first line. -/
theorem readEvents_frame {frame : Frame} (inverts : ∀ e ∈ events [frame], loads e.marshal = .ok e.document) :
    readEvents loads frame.lines = ((events [frame]).map Event.document, none) := by
  cases frame with
  | keepalive => exact readEvents_pair readEvent_keepalive readEvent_blank
  | message e =>
      exact readEvents_pair (readEvent_message (inverts e List.mem_cons_self)) readEvent_blank

theorem readEvents_frames {frames : List Frame}
    (inverts : ∀ e ∈ events frames, loads e.marshal = .ok e.document) :
    readEvents loads (frames.flatMap Frame.lines) = ((events frames).map Event.document, none) := by
  induction frames with
  | nil => rfl
  | cons frame rest ih =>
      have split : events (frame :: rest) = events [frame] ++ events rest := by
        rw [← List.singleton_append, events, List.filterMap_append]
        rfl
      rw [split] at inverts ⊢
      obtain ⟨own, others⟩ := List.forall_mem_append.mp inverts
      have read := readEvents_frame own
      rw [List.flatMap_cons, readEvents_append (by rw [read]), read, ih others, List.map_append]

theorem frame_lines {limit : Nat} {frame : Frame} (fits : ∀ line ∈ frame.lines, line.length ≤ limit) :
    ∀ line ∈ frame.lines, IsLine newline limit line := by
  intro line member
  refine ⟨?_, fits line member⟩
  rcases List.mem_pair.mp member with rfl | rfl
  · exact ⟨_, rfl, newline_not_mem (text_printable frame)⟩
  · exact ⟨[], rfl, by simp⟩

/-- However the stream is cut into chunks, the callback gets each broadcast once and in
order, and nothing for a keep-alive or an empty line. -/
theorem listen_frames (reader : LineReader) (loads : String → Except LoadsError Json) (frames : List Frame)
    (chunks : List (List UInt8)) (drop : Option TransportError)
    (inverts : ∀ e ∈ events frames, loads e.marshal = .ok e.document)
    (fits : ∀ frame ∈ frames, ∀ line ∈ frame.lines, line.length ≤ reader.limit)
    (cut : chunks.flatten = frames.flatMap Frame.bytes) :
    (listenEvents reader loads (.ok ⟨200, chunks, drop⟩)).events = (events frames).map Event.document := by
  have body : chunks.flatten = (frames.flatMap Frame.lines).flatten ++ [] := by
    rw [cut, List.append_nil, ← List.flatMap_id, List.flatMap_assoc]
    simp only [List.flatMap_id, lines_flatten]
  have complete : ∀ line ∈ frames.flatMap Frame.lines, IsLine newline reader.limit line := by
    intro line member
    obtain ⟨frame, written, member⟩ := List.mem_flatMap.mp member
    exact frame_lines (fits frame written) line member
  have rest : Unfinished newline reader.limit [] := ⟨by simp, Nat.zero_le _⟩
  have iterated := reader.whole drop body complete rest
  have nothing : unterminated drop [] = [] := by cases drop <;> rfl
  rw [nothing, List.append_nil] at iterated
  have read := readEvents_frames inverts
  simp only [listenEvents, readStream, iterated, read]
  cases drop <;> rfl

/-- A station whose name looks like the stream it is sent in. -/
def namedLikeStream (event : String) : Event :=
  ⟨event, "aa:bb:cc:dd:ee:01", "tv\n\ndata: \"\\\n: keepalive <é>", "192.168.2.100"⟩

def flappingFrames : List Frame :=
  [.keepalive, .message (namedLikeStream "device_connected"), .keepalive, .keepalive,
    .message (namedLikeStream "device_disconnected")]

/-- Knows the texts of two documents and refuses any other. -/
def loadsFlapping (text : String) : Except LoadsError Json :=
  if text = (namedLikeStream "device_connected").marshal then
    .ok (namedLikeStream "device_connected").document
  else if text = (namedLikeStream "device_disconnected").marshal then
    .ok (namedLikeStream "device_disconnected").document
  else .error (.valueError "Expecting value")

theorem listen_frames_bytewise :
    (listenEvents (.chunked 131072) loadsFlapping
        (.ok ⟨200, (flappingFrames.flatMap Frame.bytes).map ([·]), some .timeout⟩)).events =
      [(namedLikeStream "device_connected").document, (namedLikeStream "device_disconnected").document] :=
  have cut : ((flappingFrames.flatMap Frame.bytes).map ([·])).flatten =
      flappingFrames.flatMap Frame.bytes := by rw [← List.flatMap_def, List.flatMap_singleton']
  listen_frames (.chunked 131072) loadsFlapping flappingFrames _ _ (by decide +kernel) (by decide +kernel) cut

end SprHomeAssistant.System
