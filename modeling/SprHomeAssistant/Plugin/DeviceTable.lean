import SprHomeAssistant.Go.Decoding
import SprHomeAssistant.Plugin.Spr

/-! Where the device table comes from.

The API's answer and the public devices file are decoded into one map. An answer that
fails on some field has filled the map by then, and the file is decoded over it.
-/

set_option autoImplicit false

namespace SprHomeAssistant.Plugin
open Go

def DeviceEntry.zero : DeviceEntry := ⟨"", "", "", "", none, none, none⟩

/-! ## `DeviceEntry` -/

abbrev EntryField := String × Decoder DeviceEntry

/-- A field that only has to fit. -/
def unkept {Value : Type} (decode : Decoder Value) (zero : Value) : Decoder DeviceEntry :=
  fun entry document => (entry, (decode zero document).2)

def decodeStrings : Decoder (Slice String) := decodeSlice decodeString ""

/-- The texts of a `PSKEntry` and of a `DeviceStyle`. -/
def decodePair (first second : String) : Decoder (String × String) :=
  decodeStruct [
    (first, fun pair document =>
      let decoded := decodeString pair.1 document
      ((decoded.1, pair.2), decoded.2)),
    (second, fun pair document =>
      let decoded := decodeString pair.2 document
      ((pair.1, decoded.1), decoded.2))]

def deviceEntryFields : List EntryField := [
  ("Name", fun entry document =>
    let decoded := decodeString entry.name document
    ({ entry with name := decoded.1 }, decoded.2)),
  ("MAC", fun entry document =>
    let decoded := decodeString entry.mac document
    ({ entry with mac := decoded.1 }, decoded.2)),
  ("WGPubKey", unkept decodeString ""),
  ("VLANTag", fun entry document =>
    let decoded := decodeString entry.vlanTag document
    ({ entry with vlanTag := decoded.1 }, decoded.2)),
  ("RecentIP", fun entry document =>
    let decoded := decodeString entry.recentIP document
    ({ entry with recentIP := decoded.1 }, decoded.2)),
  ("DNSCustom", unkept decodeString ""),
  ("PSKEntry", unkept (decodePair "Type" "Psk") ("", "")),
  ("Policies", fun entry document =>
    let decoded := decodeStrings entry.policies document
    ({ entry with policies := decoded.1 }, decoded.2)),
  ("Groups", fun entry document =>
    let decoded := decodeStrings entry.groups document
    ({ entry with groups := decoded.1 }, decoded.2)),
  ("DeviceTags", fun entry document =>
    let decoded := decodeStrings entry.deviceTags document
    ({ entry with deviceTags := decoded.1 }, decoded.2)),
  ("DHCPFirstTime", unkept decodeString ""),
  ("DHCPLastTime", unkept decodeString ""),
  ("DHCPLastInterface", unkept decodeString ""),
  ("Style", unkept (decodePair "Icon" "Color") ("", "")),
  ("DeviceExpiration", unkept decodeInt64 0),
  ("DeleteExpiration", unkept decodeBool false),
  ("DeviceDisabled", unkept decodeBool false)]

def decodeDeviceEntry : Decoder DeviceEntry := decodeStruct deviceEntryFields

def decodeDevices : Decoder (Map DeviceEntry) := decodeMap decodeDeviceEntry .zero

/-! ## The two readings -/

/-- How the request for `/devices` ends. A body is the first JSON value in it, unless it
breaks off or has none. -/
inductive Answer where
  | unreachable
  | response (status : Nat) (body : Option Json)

inductive PublicFile where
  | unreadable
  | content (document : Option Json)

inductive SprError where
  | unreachable
  | status (code : Nat)
  | body

/-- `sprRequest` with the map as its target: what it leaves there, and its error. -/
def sprRequest (answer : Answer) (out : Map DeviceEntry) : Map DeviceEntry × Option SprError :=
  match answer with
  | .unreachable => (out, some .unreachable)
  | .response status body =>
      if 400 ≤ status then (out, some (.status status))
      else
        match body with
        | none => (out, some .body)
        | some document =>
            let decoded := decodeDevices out document
            (decoded.1, if decoded.2 then none else some .body)

/-- `json.Unmarshal`, which looks at the whole text before it stores anything. -/
def unmarshalDevices (content : Option Json) (out : Map DeviceEntry) : Map DeviceEntry × Bool :=
  match content with
  | none => (out, false)
  | some document => decodeDevices out document

def fetchSPRDevices (answer : Answer) (file : PublicFile) : Except SprError (Map DeviceEntry) :=
  match sprRequest answer ∅ with
  | (devices, none) => .ok devices
  | (devices, some err) =>
      match file with
      | .unreadable => .error err
      | .content content =>
          -- the map still has what the request left in it
          match unmarshalDevices content devices with
          | (devices, true) => .ok devices
          | (_, false) => .error err

/-! ## One source or the other -/

/-- The table of a document that decodes without error. -/
def tableOf (document : Json) : Option (Map DeviceEntry) :=
  let decoded := decodeDevices ∅ document
  if decoded.2 then some decoded.1 else none

def FromApi (answer : Answer) (devices : Map DeviceEntry) : Prop :=
  ∃ status document table, answer = .response status (some document) ∧ status < 400 ∧
    tableOf document = some table ∧ SameMap devices table

def FromFile (file : PublicFile) (devices : Map DeviceEntry) : Prop :=
  ∃ document table, file = .content (some document) ∧ tableOf document = some table ∧
    SameMap devices table

/-- A table that is returned is the API's or the file's. -/
def Unmixed (answer : Answer) (file : PublicFile) : Prop :=
  ∀ devices, fetchSPRDevices answer file = .ok devices → FromApi answer devices ∨ FromFile file devices

abbrev EntryFits (document : Json) : Prop := Fits decodeDeviceEntry .zero document

/-- The answer is an object with an entry that does not fit, the file is one whose entries
all do, and the answer has a key that the file has not. -/
def LeavesBehind (answer : Answer) (file : PublicFile) : Prop :=
  ∃ status members others, answer = .response status (some (.obj members)) ∧ status < 400 ∧
    (∃ member ∈ members, ¬ EntryFits member.2) ∧
    file = .content (some (.obj others)) ∧ (∀ member ∈ others, EntryFits member.2) ∧
    ∃ key ∈ members.map (·.1), key ∉ others.map (·.1)

/-- The entries of an object, decoded into a map. -/
abbrev fill (devices : Map DeviceEntry) (members : List (String × Json)) : Map DeviceEntry × Bool :=
  members.foldl (decodeEntry decodeDeviceEntry .zero) (devices, true)

theorem fill_fits_iff (devices : Map DeviceEntry) (members : List (String × Json)) :
    (fill devices members).2 = true ↔ ∀ member ∈ members, EntryFits member.2 := by
  simpa using decodeEntries_fit_iff decodeDeviceEntry .zero members (devices, true)

theorem tableOf_object_isNone {members : List (String × Json)}
    (misfit : ∃ member ∈ members, ¬ EntryFits member.2) : tableOf (.obj members) = none := by
  have failed : ¬ (fill ∅ members).2 = true := by
    rw [fill_fits_iff]
    push Not
    exact misfit
  simp only [tableOf, decodeDevices, decodeMap, failed, Bool.false_eq_true, if_false]

theorem sprRequest_answered {answer : Answer} {devices : Map DeviceEntry}
    (answered : sprRequest answer ∅ = (devices, none)) : FromApi answer devices := by
  unfold sprRequest at answered
  split at answered
  · cases answered
  next status body =>
    split at answered
    · cases answered
    next below =>
      split at answered
      · cases answered
      next document =>
        obtain ⟨rfl, fitted⟩ := Prod.mk.inj answered
        have decoded : (decodeDevices ∅ document).2 = true := by
          by_contra failed
          simp [failed] at fitted
        exact ⟨status, document, _, rfl, Nat.not_le.mp below, by simp [tableOf, decoded], .refl _⟩

/-- A request that fails leaves the map as it was, or filled by an object with a misfit. -/
theorem sprRequest_failed {answer : Answer} {left : Map DeviceEntry} {err : SprError}
    (failed : sprRequest answer ∅ = (left, some err)) :
    left = ∅ ∨ ∃ status members, answer = .response status (some (.obj members)) ∧ status < 400 ∧
      (∃ member ∈ members, ¬ EntryFits member.2) ∧ left = (fill ∅ members).1 := by
  unfold sprRequest at failed
  split at failed
  · exact Or.inl (Prod.mk.inj failed).1.symm
  next status body =>
    split at failed
    · exact Or.inl (Prod.mk.inj failed).1.symm
    next below =>
      split at failed
      · exact Or.inl (Prod.mk.inj failed).1.symm
      next document =>
        obtain ⟨rfl, misfit⟩ := Prod.mk.inj failed
        cases document with
        | obj members =>
            refine Or.inr ⟨status, members, rfl, Nat.not_le.mp below, ?_, rfl⟩
            by_contra fits
            push Not at fits
            have fitted := (fill_fits_iff ∅ members).mpr fits
            simp [decodeDevices, decodeMap, fitted] at misfit
        | _ => exact Or.inl rfl

/-- Over what a failed answer left, an object that has all its keys decodes as into an
empty map. -/
theorem fill_over {members others : List (String × Json)}
    (covered : ∀ key ∈ members.map (·.1), key ∈ others.map (·.1)) :
    SameMap (fill (fill ∅ members).1 others).1 (fill ∅ others).1 := by
  intro identity
  by_cases named : identity ∈ others.map (·.1)
  · obtain ⟨value, later, afresh⟩ := lookup_decodeEntries_present decodeDeviceEntry .zero others named
      ((fill ∅ members).1, true) (∅, true)
    rw [fill, fill, later, afresh]
  · have unnamed : identity ∉ members.map (·.1) := fun member => named (covered identity member)
    rw [fill, lookup_decodeEntries_absent _ _ others named, fill,
      lookup_decodeEntries_absent _ _ members unnamed, lookup_decodeEntries_absent _ _ others named]

theorem unmarshalDevices_over {answer : Answer} {left devices : Map DeviceEntry} {err : SprError}
    {content : Option Json} (apart : ¬ LeavesBehind answer (.content content))
    (failed : sprRequest answer ∅ = (left, some err))
    (decoded : unmarshalDevices content left = (devices, true)) : FromFile (.content content) devices := by
  cases content with
  | none => simp [unmarshalDevices] at decoded
  | some document =>
      obtain rfl | ⟨status, members, rfl, below, misfit, rfl⟩ := sprRequest_failed failed
      · simp only [unmarshalDevices] at decoded
        exact ⟨document, devices, rfl, by simp [tableOf, decoded], .refl _⟩
      · cases document with
        | null =>
            obtain ⟨rfl, -⟩ := Prod.mk.inj decoded
            exact ⟨.null, ∅, rfl, rfl, .refl _⟩
        | obj others =>
            obtain ⟨rfl, fitted⟩ := Prod.mk.inj decoded
            have fits := (fill_fits_iff _ others).mp fitted
            have afresh := (fill_fits_iff ∅ others).mpr fits
            have covered : ∀ key ∈ members.map (·.1), key ∈ others.map (·.1) := by
              by_contra some
              push Not at some
              exact apart ⟨status, members, others, rfl, below, misfit, rfl, fits, some⟩
            refine ⟨.obj others, (fill ∅ others).1, rfl, ?_, fill_over covered⟩
            simp only [tableOf, decodeDevices, decodeMap, afresh, if_true]
        | _ => exact absurd (congrArg Prod.snd decoded) Bool.false_ne_true

theorem fetchSPRDevices_over {status : Nat} {members others : List (String × Json)} (below : status < 400)
    (misfit : ∃ member ∈ members, ¬ EntryFits member.2) (fits : ∀ member ∈ others, EntryFits member.2) :
    fetchSPRDevices (.response status (some (.obj members))) (.content (some (.obj others))) =
      .ok (fill (fill ∅ members).1 others).1 := by
  have failed : ¬ (fill ∅ members).2 = true := by
    rw [fill_fits_iff]
    push Not
    exact misfit
  have later := (fill_fits_iff (fill ∅ members).1 others).mpr fits
  have request : sprRequest (.response status (some (.obj members))) ∅ =
      ((fill ∅ members).1, some .body) := by
    simp only [sprRequest, Nat.not_le.mpr below, decodeDevices, decodeMap, failed, if_false,
      Bool.false_eq_true]
  have decoded : unmarshalDevices (some (.obj others)) (fill ∅ members).1 =
      ((fill (fill ∅ members).1 others).1, true) := Prod.ext rfl later
  simp only [fetchSPRDevices, request, decoded]

/-- A key that only the failed answer has is in the returned table, and in no other. -/
theorem not_unmixed {answer : Answer} {file : PublicFile} (behind : LeavesBehind answer file) :
    ¬ Unmixed answer file := by
  obtain ⟨status, members, others, rfl, below, misfit, rfl, fits, key, left, absent⟩ := behind
  intro unmixed
  obtain ⟨_, document, table, answered, -, decoded, -⟩ | ⟨document, table, content, decoded, same⟩ :=
    unmixed _ (fetchSPRDevices_over below misfit fits)
  · obtain ⟨-, rfl⟩ : _ ∧ Json.obj members = document := by simpa using answered
    rw [tableOf_object_isNone misfit] at decoded
    cases decoded
  · obtain rfl : Json.obj others = document := by simpa using content
    have afresh := (fill_fits_iff ∅ others).mpr fits
    simp only [tableOf, decodeDevices, decodeMap, afresh, if_true, Option.some.injEq] at decoded
    obtain ⟨value, kept, -⟩ := lookup_decodeEntries_present decodeDeviceEntry .zero members left (∅, true)
      (∅, true)
    have found := same key
    rw [← decoded, fill, lookup_decodeEntries_absent _ _ others absent, kept,
      lookup_decodeEntries_absent _ _ others absent] at found
    cases found

/-- What is returned is the one table or the other, unless a failed answer has left keys
behind that the file does not overwrite. -/
theorem fetchSPRDevices_unmixed_iff (answer : Answer) (file : PublicFile) :
    Unmixed answer file ↔ ¬ LeavesBehind answer file := by
  refine ⟨fun unmixed behind => not_unmixed behind unmixed, fun apart devices returned => ?_⟩
  unfold fetchSPRDevices at returned
  split at returned
  next fetched =>
    obtain rfl := Except.ok.inj returned
    exact Or.inl (sprRequest_answered fetched)
  next left err failed =>
    split at returned
    · cases returned
    next content =>
      split at returned
      next decoded =>
        obtain rfl := Except.ok.inj returned
        exact Or.inr (unmarshalDevices_over apart failed decoded)
      · cases returned

/-- One entry has a number where its name belongs, and the file lists another device. -/
theorem fetchSPRDevices_mixes : ¬ ∀ (answer : Answer) (file : PublicFile), Unmixed answer file := by
  intro all
  have behind : LeavesBehind
      (.response 200 (some (.obj [("aa:bb:cc:dd:ee:01", .obj [("Name", .int 7)])])))
      (.content (some (.obj [("aa:bb:cc:dd:ee:02", .obj [("Name", .str "printer")])]))) :=
    ⟨200, _, _, rfl, by decide, ⟨_, List.mem_singleton_self _, by decide +kernel⟩, rfl, by decide +kernel,
      "aa:bb:cc:dd:ee:01", by decide, by decide⟩
  exact not_unmixed behind (all _ _)

end SprHomeAssistant.Plugin
