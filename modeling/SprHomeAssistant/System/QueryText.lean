import Mathlib.Data.List.TakeWhile
import SprHomeAssistant.Go.Query

/-! Text that is put into the query of a URL as it is, and read back from the query. -/

set_option autoImplicit false

namespace SprHomeAssistant.System
open Go Library Library.Utf8

/-- `%XX` in the text of a URL. -/
def textEscape : List Char → Option QueryToken
  | percent :: high :: low :: _ =>
      if percent = '%' ∧ high.toNat < 0x80 ∧ low.toNat < 0x80 then
        (hexByte (asciiByte high) (asciiByte low)).map .octet
      else none
  | _ => none

/-- What a character stands for by itself. -/
def textLiteral (c : Char) : List QueryToken :=
  if c = '&' then [.amp]
  else if c = ';' then [.semi]
  else if c = '=' then [.equals]
  else if c = '+' then [.octet (asciiByte ' ')]
  else (String.utf8EncodeChar c).map .octet

def textTokens (query : List Char) : List QueryToken := Escapes.read textEscape textLiteral query

/-- Tabs and line breaks, which are taken out of the text of a URL. -/
def isDropped (c : Char) : Bool := c = '\t' || c = '\n' || c = '\r'

/-- What comes before the fragment. -/
def beforeFragment (url : List Char) : List Char :=
  (url.filter fun c => !isDropped c).takeWhile (· ≠ '#')

def queryText (url : List Char) : List Char := ((beforeFragment url).dropWhile (· ≠ '?')).tail

/-- An HTTP client, as far as queries go: what it sends is read on the other side as the
text of the URL reads. -/
structure HttpClient where
  sent : String → List UInt8
  keeps : ∀ path, queryTokens (sent path) = textTokens (queryText path.toList)

/-- A character that separates, is dropped, ends the query or is read as another one. -/
def isChanged (c : Char) : Bool := isDropped c || c = '#' || c = '&' || c = ';' || c = '+'

/-- A text that a query gives back as it is. -/
def plainText (value : List Char) : Bool :=
  (value.all fun c => !isChanged c) && Escapes.plain textEscape value

example : plainText "aa:bb:cc:dd:ee:01".toList = true ∧ plainText "100%".toList = true ∧
    plainText "aa%3Abb".toList = false := by decide

/-! ## Literals -/

theorem textLiteral_length (c : Char) : (textLiteral c).length = (String.utf8EncodeChar c).length := by
  unfold textLiteral
  split_ifs with amp semi equals plus
  · subst amp; decide
  · subst semi; decide
  · subst equals; decide
  · subst plus; decide
  · rw [List.length_map]

theorem textLiteral_occupies (c : Char) : 1 ≤ (textLiteral c).length := by
  rw [textLiteral_length]
  exact List.length_pos_of_ne_nil String.utf8EncodeChar_ne_nil

theorem literals_length (cs : List Char) : (cs.flatMap textLiteral).length = (encode cs).length := by
  simp only [encode, List.length_flatMap, textLiteral_length]

theorem textLiteral_bytes (c : Char) :
    (textLiteral c).map QueryToken.byte = String.utf8EncodeChar c ↔ c ≠ '+' := by
  unfold textLiteral
  split_ifs with amp semi equals plus
  · subst amp; decide
  · subst semi; decide
  · subst equals; decide
  · subst plus; decide
  · refine iff_of_true ?_ plus
    rw [List.map_map]
    exact List.map_id _

theorem textLiteral_tokens {c : Char} {token : QueryToken} (member : token ∈ textLiteral c) :
    token ≠ .malformed ∧ (token = .amp → c = '&') ∧ (token = .semi → c = ';') := by
  unfold textLiteral at member
  split_ifs at member with amp semi equals plus
  · simp_all
  · simp_all
  · simp_all
  · simp_all
  · obtain ⟨b, -, rfl⟩ := List.mem_map.mp member
    simp

theorem textEscape_wide (text : List Char) (token : QueryToken) (begins : textEscape text = some token) :
    3 ≤ text.length := by
  unfold textEscape at begins
  split at begins
  · simp
  · cases begins

/-- Two readings of the same characters agree everywhere when they agree as a whole. -/
theorem flatMap_pointwise {first second : Char → List UInt8} (same : ∀ c, (first c).length = (second c).length)
    {cs : List Char} (whole : cs.flatMap first = cs.flatMap second) : ∀ c ∈ cs, first c = second c := by
  induction cs with
  | nil => simp
  | cons c rest ih =>
      rw [List.flatMap_cons, List.flatMap_cons] at whole
      obtain ⟨own, others⟩ := List.append_inj whole (same c)
      exact List.forall_mem_cons.mpr ⟨own, ih others⟩

/-! ## One value in the query -/

/-- The tokens of the key and the sign in front of the value. -/
def macTokens : List QueryToken :=
  [.octet (asciiByte 'm'), .octet (asciiByte 'a'), .octet (asciiByte 'c'), .equals]

theorem beforeFragment_sublist (url : List Char) : (beforeFragment url).Sublist url :=
  (List.takeWhile_sublist _).trans List.filter_sublist

theorem beforeFragment_eq_self {cs : List Char} :
    beforeFragment cs = cs ↔ ∀ c ∈ cs, isDropped c = false ∧ c ≠ '#' := by
  constructor
  · intro same
    have kept : (cs.filter fun c => !isDropped c) = cs := by
      refine List.filter_sublist.eq_of_length_le ?_
      have shorter := (List.takeWhile_sublist (· ≠ '#') (l := cs.filter fun c => !isDropped c)).length_le
      rw [← beforeFragment, same] at shorter
      exact shorter
    rw [beforeFragment, kept, List.takeWhile_eq_self_iff] at same
    rw [List.filter_eq_self] at kept
    exact fun c member => ⟨by simpa using kept c member, by simpa using same c member⟩
  · intro keeps
    rw [beforeFragment, List.filter_eq_self.mpr fun c member => by simp [(keeps c member).1],
      List.takeWhile_eq_self_iff]
    exact fun c member => by simp [(keeps c member).2]

theorem queryText_path (value : String) :
    queryText ("/wake?mac=" ++ value).toList = "mac=".toList ++ beforeFragment value.toList := by
  have kept : ("/wake?mac=".toList.filter fun c => !isDropped c) = "/wake?mac=".toList := by decide +kernel
  have unended : ("/wake?mac=".toList.all (· ≠ '#')) = true := by decide +kernel
  rw [queryText, beforeFragment, String.toList_append, List.filter_append, kept,
    List.takeWhile_append_of_pos (List.all_eq_true.mp unended)]
  rfl

theorem textTokens_cons {c : Char} (literal : c ≠ '%') (rest : List Char) :
    textTokens (c :: rest) = textLiteral c ++ textTokens rest := by
  refine Escapes.read_literal ?_
  unfold textEscape
  split
  · simp_all
  · rfl

theorem textTokens_path (value : String) :
    textTokens (queryText ("/wake?mac=" ++ value).toList) =
      macTokens ++ textTokens (beforeFragment value.toList) := by
  rw [queryText_path]
  change textTokens ('m' :: 'a' :: 'c' :: '=' :: beforeFragment value.toList) = _
  rw [textTokens_cons (by decide), textTokens_cons (by decide), textTokens_cons (by decide),
    textTokens_cons (by decide)]
  rfl

theorem macTokens_setting {tokens : List QueryToken} (semi : .semi ∉ tokens) (malformed : .malformed ∉ tokens) :
    setting (macTokens ++ tokens) = some (bytesOf "mac", tokens.map QueryToken.byte) := by
  have valid : ¬ (macTokens ++ tokens = [] ∨ .semi ∈ macTokens ++ tokens ∨ .malformed ∈ macTokens ++ tokens) := by
    simp [macTokens, semi, malformed]
  rw [setting, if_neg valid]
  rfl

/-- Behind the key, only the whole rest of the query is read as long as its tokens are. -/
theorem setting_whole {tokens segment : List QueryToken} {value : List UInt8}
    (member : segment ∈ segments (macTokens ++ tokens))
    (read : setting segment = some (bytesOf "mac", value)) (given : value ≠ [])
    (long : tokens.length ≤ value.length) :
    .amp ∉ tokens ∧ .semi ∉ tokens ∧ value = tokens.map QueryToken.byte := by
  have length := setting_length read given
  have key : (bytesOf "mac").length = 3 := by decide
  obtain ⟨bound, strict⟩ := segments_length member
  have four : (macTokens ++ tokens).length = 4 + tokens.length := by
    rw [List.length_append]
    rfl
  have whole : .amp ∉ macTokens ++ tokens := fun amp => by
    have shorter := strict amp
    omega
  rw [segments_single whole, List.mem_singleton] at member
  subst member
  obtain ⟨semi, malformed, -, rfl⟩ := setting_some read
  rw [List.mem_append, not_or] at whole semi
  exact ⟨whole.2, semi.2, rfl⟩

theorem textTokens_length (cs : List Char) : (textTokens cs).length ≤ (encode cs).length := by
  rw [← literals_length]
  exact Escapes.readFrom_length_le textEscape textLiteral_occupies 0 cs

theorem amp_mem_textLiteral : .amp ∈ textLiteral '&' := by decide

theorem semi_mem_textLiteral : .semi ∈ textLiteral ';' := by decide

/-- A text is read as its own bytes only where nothing in it is changed. -/
theorem plainText_of_bytes {value : List Char}
    (bytes : encode value = (textTokens (beforeFragment value)).map QueryToken.byte)
    (amp : .amp ∉ textTokens (beforeFragment value)) (semi : .semi ∉ textTokens (beforeFragment value)) :
    plainText value = true := by
  have part : (encode (beforeFragment value)).Sublist (encode value) := (beforeFragment_sublist value).flatMap _
  have size := congrArg List.length bytes
  rw [List.length_map] at size
  have bound := textTokens_length (beforeFragment value)
  have same : beforeFragment value = value := by
    have encoded := part.eq_of_length_le (Nat.le_trans (Nat.le_of_eq size) bound)
    rw [← runes_encode (beforeFragment value), encoded, runes_encode]
  have kept := beforeFragment_eq_self.mp same
  rw [same] at bytes amp semi size
  have unescaped : Escapes.plain textEscape value = true := by
    refine Escapes.plain_of_length_le textLiteral_occupies textEscape_wide ?_
    rw [literals_length, size]
    exact Nat.le_refl _
  rw [textTokens, Escapes.read_plain unescaped] at bytes amp semi
  rw [List.map_flatMap, encode] at bytes
  have own := flatMap_pointwise (fun c => by rw [List.length_map, textLiteral_length]) bytes
  rw [plainText, unescaped, Bool.and_true, List.all_eq_true]
  intro c member
  obtain ⟨undropped, hash⟩ := kept c member
  have plus := (textLiteral_bytes c).mp (own c member).symm
  have separates : c ≠ '&' := by
    rintro rfl
    exact amp (List.mem_flatMap.mpr ⟨_, member, amp_mem_textLiteral⟩)
  have ends : c ≠ ';' := by
    rintro rfl
    exact semi (List.mem_flatMap.mpr ⟨_, member, semi_mem_textLiteral⟩)
  simp [isChanged, undropped, hash, plus, separates, ends]

theorem plainText_cases {value : List Char} (plain : plainText value = true) :
    Escapes.plain textEscape value = true ∧
      ∀ c ∈ value, isDropped c = false ∧ c ≠ '#' ∧ c ≠ '&' ∧ c ≠ ';' ∧ c ≠ '+' := by
  obtain ⟨unchanged, unescaped⟩ := Bool.and_eq_true_iff.mp plain
  refine ⟨unescaped, fun c member => ?_⟩
  have own := List.all_eq_true.mp unchanged c member
  simpa [isChanged, and_assoc] using own

/-- What a plain text stands for: its own bytes, with nothing among them that separates. -/
theorem textTokens_plain {value : List Char} (plain : plainText value = true) :
    (textTokens value).map QueryToken.byte = encode value ∧ .malformed ∉ textTokens value ∧
      .amp ∉ textTokens value ∧ .semi ∉ textTokens value := by
  obtain ⟨unescaped, kept⟩ := plainText_cases plain
  have literal : textTokens value = value.flatMap textLiteral := Escapes.read_plain unescaped
  have read : ∀ token ∈ textTokens value, token ≠ .malformed ∧ token ≠ .amp ∧ token ≠ .semi := by
    intro token member
    rw [literal] at member
    obtain ⟨c, listed, own⟩ := List.mem_flatMap.mp member
    obtain ⟨malformed, amp, semi⟩ := textLiteral_tokens own
    obtain ⟨-, -, separates, ends, -⟩ := kept c listed
    exact ⟨malformed, fun same => separates (amp same), fun same => ends (semi same)⟩
  refine ⟨?_, fun member => (read _ member).1 rfl, fun member => (read _ member).2.1 rfl,
    fun member => (read _ member).2.2 rfl⟩
  rw [literal, List.map_flatMap, encode]
  exact List.flatMap_congr fun c member => (textLiteral_bytes c).mpr (kept c member).2.2.2.2

/-- The value of the key is read as it was written exactly when it is plain. -/
theorem queryGet_mac_iff (client : HttpClient) (value : String) :
    queryGet (parseQuery (client.sent ("/wake?mac=" ++ value))) "mac" = bytesOf value ↔
      plainText value.toList = true := by
  constructor
  · intro read
    by_cases given : bytesOf value = []
    · have none : value.toList = [] := by
        rw [← runes_encode value.toList]
        exact congrArg runes given
      rw [none]
      rfl
    · obtain ⟨segment, member, setting⟩ := queryGet_source (by rw [read]; exact given)
      rw [client.keeps, textTokens_path] at member
      rw [read] at setting
      have long : (textTokens (beforeFragment value.toList)).length ≤ (bytesOf value).length :=
        Nat.le_trans (textTokens_length _) ((beforeFragment_sublist value.toList).flatMap _).length_le
      obtain ⟨amp, semi, bytes⟩ := setting_whole member setting given long
      exact plainText_of_bytes bytes amp semi
  · intro plain
    obtain ⟨bytes, malformed, amp, semi⟩ := textTokens_plain plain
    have whole : beforeFragment value.toList = value.toList :=
      beforeFragment_eq_self.mpr fun c member =>
        have kept := (plainText_cases plain).2 c member
        ⟨kept.1, kept.2.1⟩
    have single : .amp ∉ macTokens ++ textTokens value.toList := by
      rw [List.mem_append, not_or]
      exact ⟨by decide, amp⟩
    rw [parseQuery, client.keeps, textTokens_path, whole, segments_single single, List.filterMap_cons,
      macTokens_setting semi malformed, bytes]
    rfl

/-! ## A client that quotes -/

def upperHex (n : Nat) : UInt8 :=
  asciiByte (['0', '1', '2', '3', '4', '5', '6', '7', '8', '9', 'A', 'B', 'C', 'D', 'E', 'F'].getD n '0')

/-- Bytes that are sent as they are. -/
def isUnquoted (b : UInt8) : Bool :=
  let c := Char.ofNat b.toNat
  b < 0x80 && (c.isAlphanum || "-._~/?:@!$'()*,".toList.contains c)

def quote : QueryToken → List UInt8
  | .octet b =>
      if isUnquoted b then [b]
      else if b = asciiByte ' ' then [asciiByte '+']
      else [asciiByte '%', upperHex (b.toNat / 16), upperHex (b.toNat % 16)]
  | token => [token.byte]

theorem byte_of_checked {p : UInt8 → Bool} (checked : ((List.range 256).all fun n => p (UInt8.ofNat n)) = true)
    (b : UInt8) : p b = true := by
  have holds := List.all_eq_true.mp checked b.toNat (List.mem_range.mpr b.toNat_lt)
  rwa [UInt8.ofNat_toNat] at holds

theorem unquoted_reads {b : UInt8} (unquoted : isUnquoted b = true) :
    b ≠ asciiByte '%' ∧ unescaped b = .octet b := by
  have checked := byte_of_checked
    (p := fun b => !isUnquoted b || (b != asciiByte '%' && unescaped b == .octet b)) (by decide +kernel) b
  simpa [unquoted] using checked

theorem upperHex_reads (b : UInt8) : hexByte (upperHex (b.toNat / 16)) (upperHex (b.toNat % 16)) = some b := by
  have checked := byte_of_checked
    (p := fun b => hexByte (upperHex (b.toNat / 16)) (upperHex (b.toNat % 16)) == some b) (by decide +kernel) b
  simpa using checked

theorem queryTokens_quote {token : QueryToken} (valid : token ≠ .malformed) (rest : List UInt8) :
    queryTokens (quote token ++ rest) = token :: queryTokens rest := by
  cases token with
  | amp => exact queryTokens_cons (by decide) rest
  | semi => exact queryTokens_cons (by decide) rest
  | equals => exact queryTokens_cons (by decide) rest
  | malformed => exact absurd rfl valid
  | octet b =>
      rw [quote]
      split_ifs with unquoted space
      · obtain ⟨percent, octet⟩ := unquoted_reads unquoted
        rw [List.singleton_append, queryTokens_cons percent, octet]
      · subst space
        exact queryTokens_cons (by decide) rest
      · exact queryTokens_escape (upperHex_reads b) rest

theorem queryTokens_quoted {tokens : List QueryToken} (valid : .malformed ∉ tokens) :
    queryTokens (tokens.flatMap quote) = tokens := by
  induction tokens with
  | nil => rfl
  | cons token rest ih =>
      rw [List.mem_cons, not_or] at valid
      rw [List.flatMap_cons, queryTokens_quote (Ne.symm valid.1), ih valid.2]

theorem malformed_notMem_textTokens (query : List Char) : .malformed ∉ textTokens query := by
  intro member
  rcases Escapes.mem_readFrom member with ⟨later, begins⟩ | ⟨c, own⟩
  · unfold textEscape at begins
    split at begins
    · split_ifs at begins
      simp at begins
    · cases begins
  · exact (textLiteral_tokens own).1 rfl

def HttpClient.quoting : HttpClient where
  sent path := (textTokens (queryText path.toList)).flatMap quote
  keeps _ := queryTokens_quoted (malformed_notMem_textTokens _)

example : HttpClient.quoting.sent "/wake?mac=a b%3dé\t#c" = bytesOf "mac=a+b%3D%C3%A9" := by decide

end SprHomeAssistant.System
