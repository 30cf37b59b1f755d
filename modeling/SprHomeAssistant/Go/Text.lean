import Mathlib

/-! The string and number functions of Go's library that the plugin calls.

Strings are sequences of code points: every string the plugin handles comes out
of a JSON decoder or a URL query. Case mapping and white space follow Unicode, as
they do in Go.
-/

set_option autoImplicit false

namespace SprHomeAssistant.Go

/-! ## White space and case -/

/-- The code points of `unicode.IsSpace`. -/
def spaceCodes : List Nat :=
  [9, 10, 11, 12, 13, 32, 0x85, 0xA0, 0x1680, 0x2000, 0x2001, 0x2002, 0x2003, 0x2004, 0x2005,
   0x2006, 0x2007, 0x2008, 0x2009, 0x200A, 0x2028, 0x2029, 0x202F, 0x205F, 0x3000]

def isSpace (c : Char) : Bool := spaceCodes.contains c.toNat

/-- Code points from `first` to `last`, `stride` apart, whose lower case is `distance` away. -/
structure CaseRange where
  first : Nat
  last : Nat
  stride : Nat
  distance : Int

def CaseRange.contains (range : CaseRange) (code : Nat) : Bool :=
  range.first ≤ code && code ≤ range.last && (code - range.first) % range.stride == 0

/-- The lower-case mappings of the code points above ASCII. -/
def caseRanges : List CaseRange :=
  [⟨192, 214, 1, 32⟩, ⟨216, 222, 1, 32⟩, ⟨256, 302, 2, 1⟩, ⟨304, 304, 1, -199⟩, ⟨306, 310, 2, 1⟩,
   ⟨313, 327, 2, 1⟩, ⟨330, 374, 2, 1⟩, ⟨376, 376, 1, -121⟩, ⟨377, 381, 2, 1⟩, ⟨385, 385, 1, 210⟩,
   ⟨386, 388, 2, 1⟩, ⟨390, 390, 1, 206⟩, ⟨391, 391, 1, 1⟩, ⟨393, 394, 1, 205⟩, ⟨395, 395, 1, 1⟩,
   ⟨398, 398, 1, 79⟩, ⟨399, 399, 1, 202⟩, ⟨400, 400, 1, 203⟩, ⟨401, 401, 1, 1⟩, ⟨403, 403, 1, 205⟩,
   ⟨404, 404, 1, 207⟩, ⟨406, 406, 1, 211⟩, ⟨407, 407, 1, 209⟩, ⟨408, 408, 1, 1⟩,
   ⟨412, 412, 1, 211⟩, ⟨413, 413, 1, 213⟩, ⟨415, 415, 1, 214⟩, ⟨416, 420, 2, 1⟩,
   ⟨422, 422, 1, 218⟩, ⟨423, 423, 1, 1⟩, ⟨425, 425, 1, 218⟩, ⟨428, 428, 1, 1⟩, ⟨430, 430, 1, 218⟩,
   ⟨431, 431, 1, 1⟩, ⟨433, 434, 1, 217⟩, ⟨435, 437, 2, 1⟩, ⟨439, 439, 1, 219⟩, ⟨440, 440, 1, 1⟩,
   ⟨444, 444, 1, 1⟩, ⟨452, 452, 1, 2⟩, ⟨453, 453, 1, 1⟩, ⟨455, 455, 1, 2⟩, ⟨456, 456, 1, 1⟩,
   ⟨458, 458, 1, 2⟩, ⟨459, 475, 2, 1⟩, ⟨478, 494, 2, 1⟩, ⟨497, 497, 1, 2⟩, ⟨498, 500, 2, 1⟩,
   ⟨502, 502, 1, -97⟩, ⟨503, 503, 1, -56⟩, ⟨504, 542, 2, 1⟩, ⟨544, 544, 1, -130⟩, ⟨546, 562, 2, 1⟩,
   ⟨570, 570, 1, 10795⟩, ⟨571, 571, 1, 1⟩, ⟨573, 573, 1, -163⟩, ⟨574, 574, 1, 10792⟩,
   ⟨577, 577, 1, 1⟩, ⟨579, 579, 1, -195⟩, ⟨580, 580, 1, 69⟩, ⟨581, 581, 1, 71⟩, ⟨582, 590, 2, 1⟩,
   ⟨880, 882, 2, 1⟩, ⟨886, 886, 1, 1⟩, ⟨895, 895, 1, 116⟩, ⟨902, 902, 1, 38⟩, ⟨904, 906, 1, 37⟩,
   ⟨908, 908, 1, 64⟩, ⟨910, 911, 1, 63⟩, ⟨913, 929, 1, 32⟩, ⟨931, 939, 1, 32⟩, ⟨975, 975, 1, 8⟩,
   ⟨984, 1006, 2, 1⟩, ⟨1012, 1012, 1, -60⟩, ⟨1015, 1015, 1, 1⟩, ⟨1017, 1017, 1, -7⟩,
   ⟨1018, 1018, 1, 1⟩, ⟨1021, 1023, 1, -130⟩, ⟨1024, 1039, 1, 80⟩, ⟨1040, 1071, 1, 32⟩,
   ⟨1120, 1152, 2, 1⟩, ⟨1162, 1214, 2, 1⟩, ⟨1216, 1216, 1, 15⟩, ⟨1217, 1229, 2, 1⟩,
   ⟨1232, 1326, 2, 1⟩, ⟨1329, 1366, 1, 48⟩, ⟨4256, 4293, 1, 7264⟩, ⟨4295, 4295, 1, 7264⟩,
   ⟨4301, 4301, 1, 7264⟩, ⟨5024, 5103, 1, 38864⟩, ⟨5104, 5109, 1, 8⟩, ⟨7312, 7354, 1, -3008⟩,
   ⟨7357, 7359, 1, -3008⟩, ⟨7680, 7828, 2, 1⟩, ⟨7838, 7838, 1, -7615⟩, ⟨7840, 7934, 2, 1⟩,
   ⟨7944, 7951, 1, -8⟩, ⟨7960, 7965, 1, -8⟩, ⟨7976, 7983, 1, -8⟩, ⟨7992, 7999, 1, -8⟩,
   ⟨8008, 8013, 1, -8⟩, ⟨8025, 8031, 2, -8⟩, ⟨8040, 8047, 1, -8⟩, ⟨8072, 8079, 1, -8⟩,
   ⟨8088, 8095, 1, -8⟩, ⟨8104, 8111, 1, -8⟩, ⟨8120, 8121, 1, -8⟩, ⟨8122, 8123, 1, -74⟩,
   ⟨8124, 8124, 1, -9⟩, ⟨8136, 8139, 1, -86⟩, ⟨8140, 8140, 1, -9⟩, ⟨8152, 8153, 1, -8⟩,
   ⟨8154, 8155, 1, -100⟩, ⟨8168, 8169, 1, -8⟩, ⟨8170, 8171, 1, -112⟩, ⟨8172, 8172, 1, -7⟩,
   ⟨8184, 8185, 1, -128⟩, ⟨8186, 8187, 1, -126⟩, ⟨8188, 8188, 1, -9⟩, ⟨8486, 8486, 1, -7517⟩,
   ⟨8490, 8490, 1, -8383⟩, ⟨8491, 8491, 1, -8262⟩, ⟨8498, 8498, 1, 28⟩, ⟨8544, 8559, 1, 16⟩,
   ⟨8579, 8579, 1, 1⟩, ⟨9398, 9423, 1, 26⟩, ⟨11264, 11311, 1, 48⟩, ⟨11360, 11360, 1, 1⟩,
   ⟨11362, 11362, 1, -10743⟩, ⟨11363, 11363, 1, -3814⟩, ⟨11364, 11364, 1, -10727⟩,
   ⟨11367, 11371, 2, 1⟩, ⟨11373, 11373, 1, -10780⟩, ⟨11374, 11374, 1, -10749⟩,
   ⟨11375, 11375, 1, -10783⟩, ⟨11376, 11376, 1, -10782⟩, ⟨11378, 11378, 1, 1⟩,
   ⟨11381, 11381, 1, 1⟩, ⟨11390, 11391, 1, -10815⟩, ⟨11392, 11490, 2, 1⟩, ⟨11499, 11501, 2, 1⟩,
   ⟨11506, 11506, 1, 1⟩, ⟨42560, 42604, 2, 1⟩, ⟨42624, 42650, 2, 1⟩, ⟨42786, 42798, 2, 1⟩,
   ⟨42802, 42862, 2, 1⟩, ⟨42873, 42875, 2, 1⟩, ⟨42877, 42877, 1, -35332⟩, ⟨42878, 42886, 2, 1⟩,
   ⟨42891, 42891, 1, 1⟩, ⟨42893, 42893, 1, -42280⟩, ⟨42896, 42898, 2, 1⟩, ⟨42902, 42920, 2, 1⟩,
   ⟨42922, 42922, 1, -42308⟩, ⟨42923, 42923, 1, -42319⟩, ⟨42924, 42924, 1, -42315⟩,
   ⟨42925, 42925, 1, -42305⟩, ⟨42926, 42926, 1, -42308⟩, ⟨42928, 42928, 1, -42258⟩,
   ⟨42929, 42929, 1, -42282⟩, ⟨42930, 42930, 1, -42261⟩, ⟨42931, 42931, 1, 928⟩,
   ⟨42932, 42946, 2, 1⟩, ⟨42948, 42948, 1, -48⟩, ⟨42949, 42949, 1, -42307⟩,
   ⟨42950, 42950, 1, -35384⟩, ⟨42951, 42953, 2, 1⟩, ⟨42960, 42960, 1, 1⟩, ⟨42966, 42968, 2, 1⟩,
   ⟨42997, 42997, 1, 1⟩, ⟨65313, 65338, 1, 32⟩, ⟨66560, 66599, 1, 40⟩, ⟨66736, 66771, 1, 40⟩,
   ⟨66928, 66964, 2, 39⟩, ⟨66929, 66937, 2, 39⟩, ⟨66941, 66953, 2, 39⟩, ⟨66957, 66961, 2, 39⟩,
   ⟨66965, 66965, 1, 39⟩, ⟨68736, 68786, 1, 64⟩, ⟨71840, 71871, 1, 32⟩, ⟨93760, 93791, 1, 32⟩,
   ⟨125184, 125217, 1, 34⟩]

/-- `unicode.ToLower`. -/
def unicodeToLower (c : Char) : Char :=
  if c.toNat < 128 then c.toLower
  else
    match caseRanges.find? fun range => range.contains c.toNat with
    | some range => Char.ofNat (c.toNat + range.distance).toNat
    | none => c

/-- The images of a range are `i`, `k` or code points above ASCII that are no white space. -/
def CaseRange.imageChecked (range : CaseRange) : Bool :=
  let low := range.first + range.distance
  let high := range.last + range.distance
  (range.first == range.last && (low == 0x69 || low == 0x6B)) ||
    (128 ≤ low && high < 0x110000 && (high < 0xD800 || 0xE000 ≤ low) &&
      spaceCodes.all fun code => high < code || code < low)

theorem caseRanges_checked : caseRanges.all CaseRange.imageChecked = true := by decide

theorem spaceCodes_have_no_case :
    (spaceCodes.all fun code => caseRanges.all fun range => !range.contains code) = true := by
  decide

theorem toNat_ofNat_of_valid {n : Nat} (valid : n < 0xD800 ∨ 0xE000 ≤ n ∧ n < 0x110000) :
    (Char.ofNat n).toNat = n := by
  have scalar : n.isValidChar := by
    rcases valid with small | ⟨low, high⟩
    · exact Or.inl small
    · exact Or.inr ⟨by omega, high⟩
  rw [Char.ofNat, dif_pos scalar]
  rfl

theorem CaseRange.image_of_checked {range : CaseRange} (checked : range.imageChecked = true)
    {c : Char} (inside : range.contains c.toNat = true) :
    let image := Char.ofNat (c.toNat + range.distance).toNat
    image = 'i' ∨ image = 'k' ∨ 128 ≤ image.toNat ∧ isSpace image = false := by
  simp only [CaseRange.contains, Bool.and_eq_true, decide_eq_true_eq] at inside
  obtain ⟨⟨first, last⟩, _⟩ := inside
  simp only [CaseRange.imageChecked, Bool.or_eq_true, Bool.and_eq_true, beq_iff_eq,
    decide_eq_true_eq, List.all_eq_true] at checked
  rcases checked with ⟨single, low | low⟩ | ⟨⟨⟨low, high⟩, surrogate⟩, spaces⟩
  · have code : (c.toNat + range.distance).toNat = 0x69 := by omega
    exact Or.inl (by rw [code])
  · have code : (c.toNat + range.distance).toNat = 0x6B := by omega
    exact Or.inr (Or.inl (by rw [code]))
  · have code := toNat_ofNat_of_valid (n := (c.toNat + range.distance).toNat) (by omega)
    refine Or.inr (Or.inr ⟨by omega, ?_⟩)
    rw [isSpace, code, Bool.eq_false_iff]
    intro space
    have apart := spaces _ (List.contains_iff_mem.mp space)
    omega

theorem ascii_of_checked {p : Char → Bool}
    (checked : ((List.range 128).all fun code => p (Char.ofNat code)) = true)
    {c : Char} (ascii : c.toNat < 128) : p c = true := by
  have holds := List.all_eq_true.mp checked c.toNat (List.mem_range.mpr ascii)
  rwa [Char.ofNat_toNat] at holds

theorem unicodeToLower_ascii {c : Char} (ascii : c.toNat < 128) : unicodeToLower c = c.toLower := by
  simp [unicodeToLower, ascii]

/-- Above ASCII, lower case reaches ASCII only in `i` and `k` and makes no white space. -/
theorem unicodeToLower_above {c : Char} (above : 128 ≤ c.toNat) :
    unicodeToLower c = 'i' ∨ unicodeToLower c = 'k' ∨
      128 ≤ (unicodeToLower c).toNat ∧ (isSpace (unicodeToLower c) = true → isSpace c = true) := by
  rw [unicodeToLower, if_neg (Nat.not_lt.mpr above)]
  cases found : caseRanges.find? fun range => range.contains c.toNat with
  | none => exact Or.inr (Or.inr ⟨above, id⟩)
  | some range =>
      have checked := List.all_eq_true.mp caseRanges_checked range (List.mem_of_find?_eq_some found)
      have inside := List.find?_some found
      rcases CaseRange.image_of_checked checked inside with image | image | ⟨image, space⟩
      · exact Or.inl image
      · exact Or.inr (Or.inl image)
      · exact Or.inr (Or.inr ⟨image, by simp [space]⟩)

theorem unicodeToLower_space {c : Char} (space : isSpace c = true) : unicodeToLower c = c := by
  have member : c.toNat ∈ spaceCodes := List.contains_iff_mem.mp space
  have caseless := List.all_eq_true.mp (List.all_eq_true.mp spaceCodes_have_no_case _ member)
  by_cases ascii : c.toNat < 128
  · rw [unicodeToLower_ascii ascii, Char.toLower, dif_neg]
    rintro ⟨low, high⟩
    have low : 65 ≤ c.toNat := low
    have high : c.toNat ≤ 90 := high
    simp only [spaceCodes, List.mem_cons, List.not_mem_nil, or_false] at member
    omega
  · have uncased : caseRanges.find? (fun range => range.contains c.toNat) = none := by
      rw [List.find?_eq_none]
      intro range listed contained
      have := caseless range listed
      simp [contained] at this
    rw [unicodeToLower, if_neg ascii, uncased]

/-! ## Strings -/

def trimList (cs : List Char) : List Char := (cs.dropWhile isSpace).rdropWhile isSpace

def trimSpace (s : String) : String := String.ofList (trimList s.toList)

/-- `strings.ReplaceAll` for a one-letter pattern and replacement. -/
def replaceAll (s : String) (old new : Char) : String :=
  String.ofList (s.toList.map fun c => if c = old then new else c)

def toLower (s : String) : String := String.ofList (s.toList.map unicodeToLower)

def trimPrefix (s start : String) : String :=
  if start.toList.isPrefixOf s.toList then String.ofList (s.toList.drop start.toList.length) else s

/-- `strings.EqualFold` against an ASCII text without `k` and `s`, the only letters that
fold together with code points above ASCII. -/
def equalFold (s text : String) : Bool := s.toList.map Char.toLower = text.toList.map Char.toLower

theorem trimList_map {f : Char → Char} (keeps : ∀ c, isSpace (f c) = isSpace c) (cs : List Char) :
    trimList (cs.map f) = (trimList cs).map f := by
  have same : isSpace ∘ f = isSpace := funext keeps
  simp only [trimList, List.rdropWhile, List.dropWhile_map, same, ← List.map_reverse]

theorem trimList_idempotent (cs : List Char) : trimList (trimList cs) = trimList cs := by
  have start : (trimList cs).dropWhile isSpace = trimList cs := by
    cases shape : trimList cs with
    | nil => rfl
    | cons first rest =>
        have leading : cs.dropWhile isSpace ≠ [] := by
          intro none
          simp [trimList, none] at shape
        have same : (cs.dropWhile isSpace).head leading = first := by
          obtain ⟨suffix, whole⟩ := List.rdropWhile_prefix isSpace (cs.dropWhile isSpace)
          have : trimList cs ++ suffix = cs.dropWhile isSpace := whole
          simp [← this, shape]
        have apart := List.head_dropWhile_not isSpace leading
        rw [same] at apart
        rw [List.dropWhile_cons_of_neg]
        simp [apart]
  rw [trimList, start, trimList, List.rdropWhile_idempotent]

/-! ## Numbers -/

inductive NumError where
  | malformed
  | outOfRange
  deriving DecidableEq, Repr

def digitValue (c : Char) : Option Nat :=
  if '0' ≤ c ∧ c ≤ '9' then some (c.toNat - '0'.toNat)
  else if 'a' ≤ c.toLower ∧ c.toLower ≤ 'z' then some (c.toLower.toNat - 'a'.toNat + 10)
  else none

/-- The digit loop of `strconv.ParseUint`. It stops at the first digit that takes the
number past the limit, so a bad letter behind that digit goes unseen. -/
def parseDigits (base limit : Nat) : List Char → Nat → Nat × Option NumError
  | [], n => (n, none)
  | c :: rest, n =>
      match digitValue c with
      | none => (0, some .malformed)
      | some d =>
          if base ≤ d then (0, some .malformed)
          else if limit < n * base + d then (limit, some .outOfRange)
          else parseDigits base limit rest (n * base + d)

/-- `strconv.ParseUint`, for an explicit base. -/
def parseUint (digits : List Char) (base bitSize : Nat) : Nat × Option NumError :=
  if digits.isEmpty then (0, some .malformed) else parseDigits base (2 ^ bitSize - 1) digits 0

def splitSign : List Char → Bool × List Char
  | '+' :: digits => (false, digits)
  | '-' :: digits => (true, digits)
  | digits => (false, digits)

/-- `strconv.ParseInt`, for an explicit base: a number out of range is cut to the nearest
end of the range and returned with the error. -/
def parseInt (s : String) (base bitSize : Nat) : Int × Option NumError :=
  let (negative, digits) := splitSign s.toList
  let cutoff := 2 ^ (bitSize - 1)
  match parseUint digits base bitSize with
  | (_, some .malformed) => (0, some .malformed)
  | (n, _) =>
      if negative then
        if cutoff < n then (-(cutoff : Int), some .outOfRange) else (-(n : Int), none)
      else if cutoff ≤ n then ((cutoff : Int) - 1, some .outOfRange)
      else (n, none)

/-- `strconv.Atoi` on a 64-bit machine. -/
def atoi (s : String) : Int × Option NumError := parseInt s 10 64

end SprHomeAssistant.Go
