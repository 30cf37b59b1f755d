import SprHomeAssistant.Go.Net
import SprHomeAssistant.Plugin.State

/-! The wake route, from the value of its query to the packets on the LAN. -/

set_option autoImplicit false

namespace SprHomeAssistant.Plugin
open Go Go.Net Library.Utf8

/-- Pairs of bytes with colons between them. -/
def joinPairs : List UInt8 → List UInt8
  | first :: second :: third :: rest =>
      first :: second :: asciiByte ':' :: joinPairs (third :: rest)
  | rest => rest

/-- `parseMAC` of the plugin, which also takes twelve bare digits. -/
def parseMAC (mac : String) : Except String (List UInt8) :=
  let s := bytesOf (trimSpace mac)
  let separated := s.any fun b => b = asciiByte ':' || b = asciiByte '-' || b = asciiByte '.'
  let s := if !separated && s.length = 12 then joinPairs s else s
  match Net.parseMAC s with
  | none => .error (addrError s)
  | some hw =>
      if hw.length = 6 then .ok hw
      else .error ("wol: need a 48-bit MAC, got " ++ hardwareString hw)

/-- The loop that appends the address. -/
def appendCopies (hw : List UInt8) : Nat → List UInt8 → List UInt8
  | 0, payload => payload
  | n + 1, payload => appendCopies hw n (payload ++ hw)

def magicPacket (hw : List UInt8) : List UInt8 := appendCopies hw 16 (List.replicate 6 0xff)

/-- The host's network. An error is given by its text. -/
structure Lan where
  /-- The text of the IPv4 address that `net.ParseIP` and `To4` find in a text. -/
  ipv4 : String → Option String
  dial : String → Option String
  write : String → List UInt8 → Option String

structure Datagram where
  target : String
  payload : List UInt8

/-- The datagrams written, in order, and the error returned. -/
structure Sent where
  datagrams : List Datagram
  err : Option String

structure Sending where
  datagrams : List Datagram
  lastErr : Option String
  sent : Bool

/-- One turn of the loop over the targets. -/
def sendTarget (lan : Lan) (payload : List UInt8) (acc : Sending) (target : String) : Sending :=
  match lan.dial target with
  | some err => { acc with lastErr := some err }
  | none =>
      let acc := { acc with datagrams := acc.datagrams ++ [Datagram.mk target payload] }
      match lan.write target payload with
      | some err => { acc with lastErr := some err }
      | none => { acc with sent := true }

def broadcast : String := "255.255.255.255:9"

def sendWOL (lan : Lan) (mac ip : String) : Sent :=
  match parseMAC mac with
  | .error err => ⟨[], some err⟩
  | .ok hw =>
      let targets := broadcast :: (lan.ipv4 ip).toList.map fun address => address ++ ":9"
      let acc := targets.foldl (sendTarget lan (magicPacket hw)) ⟨[], none, false⟩
      ⟨acc.datagrams, if acc.sent then none else acc.lastErr⟩

/-- What a handler writes. A body is JSON or plain text. -/
structure HttpAnswer where
  status : Nat
  jsonType : Bool
  body : String
  deriving DecidableEq

/-- `http.Error`. -/
def httpError (message : String) (status : Nat) : HttpAnswer := ⟨status, false, message ++ "\n"⟩

structure Waking where
  answer : HttpAnswer
  datagrams : List Datagram

/-- The IP of the first device with the MAC. -/
def knownIP (devices : Slice TrackedDevice) (mac : String) : String :=
  match devices.items.find? fun d => d.mac = mac with
  | some d => d.ip
  | none => ""

/-- `handleWake`, for the bytes of the query's value and the devices of the snapshot. -/
def handleWake (lan : Lan) (devices : Slice TrackedDevice) (query : List UInt8) : Waking :=
  let mac := normalizeMAC (text query)
  if isMAC mac then
    let sent := sendWOL lan mac (knownIP devices mac)
    match sent.err with
    | some err => ⟨httpError err 500, sent.datagrams⟩
    | none => ⟨⟨200, true, "\x7b\"ok\":true\x7d\n"⟩, sent.datagrams⟩
  else ⟨httpError "invalid mac" 400, []⟩

/-! ## The address -/

theorem asciiByte_reads {c : Char} (digit : isHexDigit c = true) :
    ∃ n, n < 16 ∧ unhex (asciiByte c) = some n ∧ lowerHex n = c := by
  have letter : isMacLetter c = true := by simp [isMacLetter, digit]
  have checked := ascii_of_checked
    (p := fun c => !isHexDigit c || (unhex (asciiByte c)).any fun n => n < 16 && lowerHex n == c)
    (by decide) (isMacLetter_ascii letter).1
  simp only [digit, Bool.not_true, Bool.false_or, Option.any_eq_true, Bool.and_eq_true,
    decide_eq_true_eq, beq_iff_eq] at checked
  obtain ⟨n, read, small, written⟩ := checked
  exact ⟨n, small, read, written⟩

theorem hexByte_digits {high low : Char} (first : isHexDigit high = true) (second : isHexDigit low = true) :
    ∃ b, hexByte (asciiByte high) (asciiByte low) = some b ∧ hexPair b = [high, low] := by
  obtain ⟨h, small, reads, rfl⟩ := asciiByte_reads first
  obtain ⟨l, little, others, rfl⟩ := asciiByte_reads second
  exact hexByte_pair reads others small little

/-- What the pattern accepts is read as one byte more than it has colons. -/
theorem matchPairs_reads {n : Nat} {cs : List Char} (matched : matchPairs n cs = true) :
    ∃ hw, readPairs (asciiByte ':') (cs.map asciiByte) = some hw ∧ hw.length = n + 1 ∧ colonForm hw = cs := by
  fun_induction matchPairs n cs with
  | case1 high low =>
      obtain ⟨first, second⟩ := Bool.and_eq_true_iff.mp matched
      obtain ⟨b, read, written⟩ := hexByte_digits first second
      exact ⟨[b], by simp [readPairs, read], rfl, written⟩
  | case2 n high low rest ih =>
      obtain ⟨pair, others⟩ := Bool.and_eq_true_iff.mp matched
      obtain ⟨first, second⟩ := Bool.and_eq_true_iff.mp pair
      obtain ⟨b, read, written⟩ := hexByte_digits first second
      obtain ⟨hw, reads, length, spelled⟩ := ih others
      refine ⟨b :: hw, by simp [readPairs, read, reads], by rw [List.length_cons, length], ?_⟩
      have more : hw ≠ [] := List.ne_nil_of_length_eq_add_one length
      rw [colonForm_cons b more, written, spelled]
      rfl
  | case3 => cases matched

theorem matchPairs_colon {n : Nat} {cs : List Char} (matched : matchPairs (n + 1) cs = true) :
    cs[2]? = some ':' := by
  unfold matchPairs at matched
  split at matched
  · contradiction
  · rfl
  · cases matched

theorem parseMAC_colons {mac : String} {s hw : List UInt8} (bytes : bytesOf (trimSpace mac) = s)
    (colon : s[2]? = some (asciiByte ':')) (reads : readPairs (asciiByte ':') s = some hw)
    (six : hw.length = 6) : parseMAC mac = .ok hw := by
  have separated : (s.any fun b => b = asciiByte ':' || b = asciiByte '-' || b = asciiByte '.') = true :=
    List.any_eq_true.mpr ⟨_, List.mem_of_getElem? colon, by decide⟩
  have parsed := Net.parseMAC_colons colon reads six
  unfold parseMAC
  simp only [bytes, separated, Bool.not_true, Bool.false_and, Bool.false_eq_true, if_false, parsed, six, if_true]

/-- What `isMAC` lets through is a six-byte address whose text is the normalised spelling. -/
theorem parseMAC_normalizeMAC {s : String} (valid : isMAC s = true) :
    ∃ hw, parseMAC (normalizeMAC s) = .ok hw ∧ hw.length = 6 ∧ hardwareString hw = normalizeMAC s := by
  obtain ⟨hw, reads, six, spelled⟩ := matchPairs_reads valid
  have letters := matchPairs_letters valid
  have bytes : bytesOf (trimSpace (normalizeMAC s)) = (normalizeMAC s).toList.map asciiByte := by
    rw [bytesOf, trimSpace, String.toList_ofList, trimList_normalizeMAC]
    exact encode_ascii fun c member => (isMacLetter_ascii (letters c member)).1
  have colon : ((normalizeMAC s).toList.map asciiByte)[2]? = some (asciiByte ':') := by
    rw [List.getElem?_map, matchPairs_colon valid]
    rfl
  exact ⟨hw, parseMAC_colons bytes colon reads six, six, by rw [hardwareString, spelled, String.ofList_toList]⟩

/-! ## The packet -/

theorem appendCopies_eq (hw : List UInt8) (n : Nat) (payload : List UInt8) :
    appendCopies hw n payload = payload ++ (List.replicate n hw).flatten := by
  induction n generalizing payload with
  | zero => simp [appendCopies]
  | succ n ih => rw [appendCopies, ih, List.replicate_succ, List.flatten_cons, List.append_assoc]

/-- Each of several copies of a block is found at its place. -/
theorem copy_at (block : List UInt8) {i n : Nat} (below : i < n) :
    ((List.replicate n block).flatten.drop (i * block.length)).take block.length = block := by
  obtain ⟨rest, rfl⟩ := Nat.exists_eq_add_of_lt below
  have split : (List.replicate (i + rest + 1) block).flatten =
      (List.replicate i block).flatten ++ (block ++ (List.replicate rest block).flatten) := by
    rw [Nat.add_assoc, List.replicate_add, List.flatten_append, List.replicate_succ, List.flatten_cons]
  have skipped : (List.replicate i block).flatten.length = i * block.length := by simp
  rw [split, ← skipped, List.drop_left, List.take_left]

/-- A magic packet for an address, which can be read back at each of its sixteen places. -/
structure IsMagicPacket (hw payload : List UInt8) : Prop where
  shape : payload = List.replicate 6 0xff ++ (List.replicate 16 hw).flatten
  length : payload.length = 102
  copies : ∀ i < 16, (payload.drop (6 + i * 6)).take 6 = hw

theorem isMagicPacket {hw : List UInt8} (six : hw.length = 6) : IsMagicPacket hw (magicPacket hw) := by
  have shape : magicPacket hw = List.replicate 6 0xff ++ (List.replicate 16 hw).flatten :=
    appendCopies_eq hw 16 _
  refine ⟨shape, by simp [shape, six], fun i below => ?_⟩
  have found := copy_at hw below
  rw [six] at found
  have synced : 6 = (List.replicate 6 (0xff : UInt8)).length := by simp
  rw [shape, ← List.drop_drop, show (List.replicate 6 (0xff : UInt8) ++ (List.replicate 16 hw).flatten).drop 6 =
    (List.replicate 16 hw).flatten from List.drop_left' synced.symm, found]

theorem sendTarget_payload {lan : Lan} {payload : List UInt8} {acc : Sending}
    (own : ∀ datagram ∈ acc.datagrams, datagram.payload = payload) (target : String) :
    ∀ datagram ∈ (sendTarget lan payload acc target).datagrams, datagram.payload = payload := by
  have written : ∀ datagram ∈ acc.datagrams ++ [Datagram.mk target payload], datagram.payload = payload :=
    List.forall_mem_append.mpr ⟨own, by simp⟩
  unfold sendTarget
  cases lan.dial target with
  | some err => exact own
  | none =>
      cases refused : lan.write target payload with
      | some err => simpa only [refused] using written
      | none => simpa only [refused] using written

theorem sendTargets_payload {lan : Lan} {payload : List UInt8} (targets : List String) {acc : Sending}
    (own : ∀ datagram ∈ acc.datagrams, datagram.payload = payload) :
    ∀ datagram ∈ (targets.foldl (sendTarget lan payload) acc).datagrams, datagram.payload = payload := by
  induction targets generalizing acc with
  | nil => exact own
  | cons target rest ih => exact ih (sendTarget_payload own target)

theorem sendWOL_payload {lan : Lan} {mac : String} {hw : List UInt8} (parsed : parseMAC mac = .ok hw)
    (ip : String) : ∀ datagram ∈ (sendWOL lan mac ip).datagrams, datagram.payload = magicPacket hw := by
  unfold sendWOL
  simp only [parsed]
  exact sendTargets_payload _ (List.forall_mem_nil _)

theorem handleWake_invalid {query : List UInt8} (invalid : isMAC (text query) = false) (lan : Lan)
    (devices : Slice TrackedDevice) :
    handleWake lan devices query = ⟨httpError "invalid mac" 400, []⟩ := by
  simp only [handleWake, isMAC_normalizeMAC, invalid, Bool.false_eq_true, if_false]

theorem handleWake_datagrams {query : List UInt8} (valid : isMAC (text query) = true) (lan : Lan)
    (devices : Slice TrackedDevice) :
    (handleWake lan devices query).datagrams =
      (sendWOL lan (normalizeMAC (text query)) (knownIP devices (normalizeMAC (text query)))).datagrams := by
  simp only [handleWake, isMAC_normalizeMAC, valid, if_true]
  generalize sendWOL lan (normalizeMAC (text query)) (knownIP devices (normalizeMAC (text query))) = sent
  cases sent.err with
  | none => rfl
  | some err => rfl

theorem sendTarget_keeps {lan : Lan} {payload : List UInt8} {acc : Sending} {datagram : Datagram}
    (written : datagram ∈ acc.datagrams) (target : String) :
    datagram ∈ (sendTarget lan payload acc target).datagrams := by
  unfold sendTarget
  cases lan.dial target with
  | some err => exact written
  | none =>
      cases refused : lan.write target payload with
      | some err => simpa only [refused] using List.mem_append_left _ written
      | none => simpa only [refused] using List.mem_append_left _ written

theorem sendTargets_keeps {lan : Lan} {payload : List UInt8} {datagram : Datagram} (targets : List String)
    {acc : Sending} (written : datagram ∈ acc.datagrams) :
    datagram ∈ (targets.foldl (sendTarget lan payload) acc).datagrams := by
  induction targets generalizing acc with
  | nil => exact written
  | cons target rest ih => exact ih (sendTarget_keeps written target)

/-- A MAC is broadcast wherever the broadcast address can be dialled. -/
theorem handleWake_broadcasts {query : List UInt8} (valid : isMAC (text query) = true) {lan : Lan}
    (dialled : lan.dial broadcast = none) (devices : Slice TrackedDevice) :
    ∃ datagram ∈ (handleWake lan devices query).datagrams, datagram.target = broadcast := by
  obtain ⟨hw, parsed, -⟩ := parseMAC_normalizeMAC valid
  rw [handleWake_datagrams valid]
  unfold sendWOL
  simp only [parsed, List.foldl_cons]
  refine ⟨⟨broadcast, magicPacket hw⟩, sendTargets_keeps _ ?_, rfl⟩
  simp only [sendTarget, dialled]
  cases lan.write broadcast (magicPacket hw) with
  | some err => exact List.mem_singleton_self _
  | none => exact List.mem_singleton_self _

/-- The route sends only for a MAC. Its address is always parsed, every datagram is a magic
packet for it, and one is broadcast if the broadcast address can be dialled. -/
theorem handleWake_sends (lan : Lan) (devices : Slice TrackedDevice) (query : List UInt8) :
    ((handleWake lan devices query).datagrams ≠ [] → isMAC (text query) = true) ∧
    (isMAC (text query) = true →
      ∃ hw, parseMAC (normalizeMAC (text query)) = .ok hw ∧ hw.length = 6 ∧
        hardwareString hw = normalizeMAC (text query) ∧
        (∀ datagram ∈ (handleWake lan devices query).datagrams, IsMagicPacket hw datagram.payload) ∧
        (lan.dial broadcast = none →
          ∃ datagram ∈ (handleWake lan devices query).datagrams, datagram.target = broadcast)) := by
  refine ⟨fun sends => ?_, fun valid => ?_⟩
  · by_contra invalid
    exact sends (by rw [handleWake_invalid (by simpa using invalid)])
  · obtain ⟨hw, parsed, six, spelled⟩ := parseMAC_normalizeMAC valid
    refine ⟨hw, parsed, six, spelled, fun datagram member => ?_,
      fun dialled => handleWake_broadcasts valid dialled devices⟩
    rw [handleWake_datagrams valid] at member
    rw [sendWOL_payload parsed _ datagram member]
    exact isMagicPacket six

/-- A host without errors, whose devices have no addresses. -/
def openLan : Lan := ⟨fun _ => none, fun _ => none, fun _ _ => none⟩

theorem handleWake_sends_dashes :
    isMAC (text (bytesOf " AA-bb-CC-dd-EE-01")) = true ∧
      ∃ hw, parseMAC (normalizeMAC (text (bytesOf " AA-bb-CC-dd-EE-01"))) = .ok hw ∧ hw.length = 6 ∧
        hardwareString hw = normalizeMAC (text (bytesOf " AA-bb-CC-dd-EE-01")) ∧
        (∀ datagram ∈ (handleWake openLan none (bytesOf " AA-bb-CC-dd-EE-01")).datagrams,
          IsMagicPacket hw datagram.payload) ∧
        ∃ datagram ∈ (handleWake openLan none (bytesOf " AA-bb-CC-dd-EE-01")).datagrams,
          datagram.target = broadcast := by
  have valid : isMAC (text (bytesOf " AA-bb-CC-dd-EE-01")) = true := by
    rw [text_bytesOf]
    decide +kernel
  obtain ⟨hw, parsed, six, spelled, packets, broadcasts⟩ :=
    (handleWake_sends openLan none (bytesOf " AA-bb-CC-dd-EE-01")).2 valid
  exact ⟨valid, hw, parsed, six, spelled, packets, broadcasts rfl⟩

end SprHomeAssistant.Plugin
