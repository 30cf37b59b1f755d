import SprHomeAssistant.Json
import SprHomeAssistant.Library.Utf8
import SprHomeAssistant.Plugin.Refresh

/-! The event stream as `handleEvents` writes it.

A broadcast is marshalled once. Its text is that of an object on one line: whatever a
name holds, the line ends of the stream are the writer's own.
-/

set_option autoImplicit false

namespace SprHomeAssistant.Plugin
open Library.Utf8

/-! ## `json.Marshal` on an event -/

def hexDigit (n : Nat) : Char := "0123456789abcdef".toList.getD (n % 16) '0'

def unicodeEscape (code : Nat) : List Char :=
  ['\\', 'u', hexDigit (code / 4096), hexDigit (code / 256), hexDigit (code / 16), hexDigit code]

def escapeChar (c : Char) : List Char :=
  if c = '"' || c = '\\' then ['\\', c]
  else if c.toNat = 0x08 then ['\\', 'b']
  else if c.toNat = 0x0C then ['\\', 'f']
  else if c = '\n' then ['\\', 'n']
  else if c = '\r' then ['\\', 'r']
  else if c = '\t' then ['\\', 't']
  -- for embedding in HTML and in JavaScript
  else if c.toNat < 0x20 || c = '<' || c = '>' || c = '&' || c.toNat = 0x2028 || c.toNat = 0x2029 then
    unicodeEscape c.toNat
  else [c]

def quoted (s : String) : String := "\"" ++ String.ofList (s.toList.flatMap escapeChar) ++ "\""

/-- What is between the braces: a map's keys come sorted. -/
def Event.fields (e : Event) : String :=
  "\"data\":\x7b\"ip\":" ++ quoted e.ip ++ ",\"mac\":" ++ quoted e.mac ++ ",\"name\":" ++
    quoted e.name ++ "\x7d,\"event\":" ++ quoted e.event

def Event.marshal (e : Event) : String := "\x7b" ++ e.fields ++ "\x7d"

/-- The value that was broadcast. -/
def Event.document (e : Event) : Json :=
  .obj [("data", .obj [("ip", .str e.ip), ("mac", .str e.mac), ("name", .str e.name)]),
    ("event", .str e.event)]

/-! ## `handleEvents` -/

/-- What one turn of the handler's loop writes. -/
inductive Frame where
  | keepalive
  | message (e : Event)

/-- The first of the frame's lines; the other one is empty. -/
def Frame.text : Frame → String
  | .keepalive => ": keepalive"
  | .message e => "data: " ++ e.marshal

def Frame.bytes (frame : Frame) : List UInt8 := encode (frame.text ++ "\n\n").toList

def events (frames : List Frame) : List Event :=
  frames.filterMap fun
    | .keepalive => none
    | .message e => some e

/-! ## No line ends inside a frame's text -/

def Printable (text : String) : Prop := ∀ c ∈ text.toList, 0x20 ≤ c.toNat

theorem Printable.append {first rest : String} (left : Printable first) (right : Printable rest) :
    Printable (first ++ rest) := by
  unfold Printable at left right ⊢
  rw [String.toList_append, List.forall_mem_append]
  exact ⟨left, right⟩

theorem hexDigit_printable (n : Nat) : 0x20 ≤ (hexDigit n).toNat := by
  have table : ∀ k < 16, 0x20 ≤ ("0123456789abcdef".toList.getD k '0').toNat := by decide
  exact table _ (Nat.mod_lt _ (by decide))

theorem escapeChar_visible (c : Char) : ∀ d ∈ escapeChar c, 0x20 ≤ d.toNat := by
  unfold escapeChar
  split
  next quote =>
    rw [Bool.or_eq_true, decide_eq_true_eq, decide_eq_true_eq] at quote
    rcases quote with rfl | rfl <;> simp
  split
  · simp
  split
  · simp
  split
  · simp
  split
  · simp
  split
  · simp
  split
  · simp [unicodeEscape, hexDigit_printable]
  next plain =>
    have visible : ¬ c.toNat < 0x20 := fun control => plain (by simp [control])
    simpa using visible

theorem quoted_printable (s : String) : Printable (quoted s) := by
  have escaped : Printable (String.ofList (s.toList.flatMap escapeChar)) := by
    intro c member
    rw [String.toList_ofList] at member
    obtain ⟨original, -, member⟩ := List.mem_flatMap.mp member
    exact escapeChar_visible original c member
  have quote : Printable "\"" := by simp [Printable]
  exact (quote.append escaped).append quote

theorem fields_printable (e : Event) : Printable e.fields := by
  have data : Printable "\"data\":\x7b\"ip\":" := by simp [Printable]
  have mac : Printable ",\"mac\":" := by simp [Printable]
  have name : Printable ",\"name\":" := by simp [Printable]
  have event : Printable "\x7d,\"event\":" := by simp [Printable]
  have address := (data.append (quoted_printable e.ip)).append mac
  have named := (address.append (quoted_printable e.mac)).append name
  exact ((named.append (quoted_printable e.name)).append event).append (quoted_printable e.event)

theorem marshal_printable (e : Event) : Printable e.marshal := by
  have opens : Printable "\x7b" := by simp [Printable]
  have closes : Printable "\x7d" := by simp [Printable]
  exact (opens.append (fields_printable e)).append closes

theorem text_printable (frame : Frame) : Printable frame.text := by
  cases frame with
  | keepalive => simp [Frame.text, Printable]
  | message e =>
      have field : Printable "data: " := by simp [Printable]
      exact field.append (marshal_printable e)

/-- The two lines of a frame. -/
def Frame.lines (frame : Frame) : List (List UInt8) :=
  [encode frame.text.toList ++ [newline], [newline]]

theorem newline_not_mem {text : String} (printable : Printable text) :
    newline ∉ encode text.toList := by
  intro member
  obtain ⟨c, listed, same⟩ := mem_of_mem_encode member (by decide)
  have visible := printable c listed
  have code : newline.toNat = 10 := rfl
  omega

theorem lines_flatten (frame : Frame) : frame.lines.flatten = frame.bytes := by
  have ends : encode ['\n', '\n'] = [newline, newline] := by decide
  simp [Frame.lines, Frame.bytes, encode_append, String.toList_append, ends]

end SprHomeAssistant.Plugin
