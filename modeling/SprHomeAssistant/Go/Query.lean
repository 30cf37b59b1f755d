import SprHomeAssistant.Go.Bytes
import SprHomeAssistant.Library.Escapes

/-! The query of a URL as Go reads it. -/

set_option autoImplicit false

namespace SprHomeAssistant.Go
open Library Library.Utf8

/-- What stands in a query. A `malformed` token is a `%` that begins no escape. -/
inductive QueryToken where
  | amp
  | semi
  | equals
  | malformed
  | octet (b : UInt8)
  deriving DecidableEq

/-- `%XX`. -/
def escaped : List UInt8 → Option QueryToken
  | percent :: high :: low :: _ =>
      if percent = asciiByte '%' then (hexByte high low).map .octet else none
  | _ => none

def unescaped (b : UInt8) : QueryToken :=
  if b = asciiByte '&' then .amp
  else if b = asciiByte ';' then .semi
  else if b = asciiByte '=' then .equals
  else if b = asciiByte '%' then .malformed
  else if b = asciiByte '+' then .octet (asciiByte ' ')
  else .octet b

def queryTokens (raw : List UInt8) : List QueryToken := Escapes.read escaped (fun b => [unescaped b]) raw

/-- The settings of a query, which ampersands separate. -/
def segments : List QueryToken → List (List QueryToken)
  | [] => [[]]
  | token :: rest =>
      if token = .amp then [] :: segments rest
      else
        match segments rest with
        | [] => [[token]]
        | first :: others => (token :: first) :: others

/-- The byte that a token stands for in a key or a value. -/
def QueryToken.byte : QueryToken → UInt8
  | .amp => asciiByte '&'
  | .semi => asciiByte ';'
  | .equals => asciiByte '='
  | .malformed => asciiByte '%'
  | .octet b => b

/-- A setting's key and value. One with a semicolon or a malformed escape is passed over. -/
def setting (segment : List QueryToken) : Option (List UInt8 × List UInt8) :=
  if segment = [] ∨ .semi ∈ segment ∨ .malformed ∈ segment then none
  else some ((segment.takeWhile (· ≠ .equals)).map QueryToken.byte,
    (segment.dropWhile (· ≠ .equals)).tail.map QueryToken.byte)

/-- `url.ParseQuery`, for a caller that ignores its error, as `URL.Query` does. -/
def parseQuery (raw : List UInt8) : List (List UInt8 × List UInt8) :=
  (segments (queryTokens raw)).filterMap setting

/-- `Values.Get`: the first value of a key, or nothing. -/
def queryGet (values : List (List UInt8 × List UInt8)) (key : String) : List UInt8 :=
  match values.find? fun pair => pair.1 = bytesOf key with
  | some pair => pair.2
  | none => []

example : queryGet (parseQuery (bytesOf "a=1;2&mac=%41+b%&mac=%41+b=c&mac=d")) "mac" = bytesOf "A b=c" := by decide

theorem queryTokens_cons {b : UInt8} (literal : b ≠ asciiByte '%') (rest : List UInt8) :
    queryTokens (b :: rest) = unescaped b :: queryTokens rest := by
  refine Escapes.read_literal ?_
  unfold escaped
  split
  · simp_all
  · rfl

theorem queryTokens_escape {high low b : UInt8} (digits : hexByte high low = some b) (rest : List UInt8) :
    queryTokens (asciiByte '%' :: high :: low :: rest) = .octet b :: queryTokens rest := by
  refine (Escapes.read_escape ?_).trans rfl
  rw [escaped, if_pos rfl, digits, Option.map_some]

theorem segments_single {tokens : List QueryToken} (whole : .amp ∉ tokens) : segments tokens = [tokens] := by
  induction tokens with
  | nil => rfl
  | cons token rest ih =>
      obtain ⟨own, others⟩ := List.mem_cons.not.trans not_or |>.mp whole
      rw [segments, if_neg (Ne.symm own), ih others]

/-- A segment has all the tokens only where nothing separates any. -/
theorem segments_length {tokens segment : List QueryToken} (member : segment ∈ segments tokens) :
    segment.length ≤ tokens.length ∧ (.amp ∈ tokens → segment.length < tokens.length) := by
  induction tokens generalizing segment with
  | nil =>
      obtain rfl := List.mem_singleton.mp member
      simp
  | cons token rest ih =>
      rw [segments] at member
      split at member
      next separator =>
        rcases List.mem_cons.mp member with rfl | later
        · simp
        · have bound := (ih later).1
          rw [List.length_cons]
          exact ⟨Nat.le_succ_of_le bound, fun _ => Nat.lt_succ_of_le bound⟩
      next other =>
        have behind : .amp ∈ token :: rest → .amp ∈ rest := fun amp =>
          (List.mem_cons.mp amp).resolve_left (Ne.symm other)
        split at member
        next none =>
          obtain rfl := List.mem_singleton.mp member
          cases rest with
          | nil => exact ⟨Nat.le_refl _, fun amp => absurd (behind amp) (by simp)⟩
          | cons next rest => exact ⟨Nat.succ_le_succ (Nat.zero_le _), fun _ => Nat.succ_lt_succ (Nat.succ_pos _)⟩
        next first others found =>
          rw [found] at ih
          rcases List.mem_cons.mp member with rfl | later
          · obtain ⟨bound, strict⟩ := ih List.mem_cons_self
            simp only [List.length_cons]
            exact ⟨Nat.succ_le_succ bound, fun amp => Nat.succ_lt_succ (strict (behind amp))⟩
          · have bound := (ih (List.mem_cons_of_mem _ later)).1
            rw [List.length_cons]
            exact ⟨Nat.le_succ_of_le bound, fun _ => Nat.lt_succ_of_le bound⟩

/-- A value that is not empty comes from a setting with its key. -/
theorem queryGet_source {raw : List UInt8} {key : String} (found : queryGet (parseQuery raw) key ≠ []) :
    ∃ segment ∈ segments (queryTokens raw),
      setting segment = some (bytesOf key, queryGet (parseQuery raw) key) := by
  unfold queryGet at found ⊢
  cases listed : (parseQuery raw).find? fun pair => pair.1 = bytesOf key with
  | none => simp [listed] at found
  | some pair =>
      obtain ⟨segment, member, reads⟩ := List.mem_filterMap.mp (List.mem_of_find?_eq_some listed)
      have named : pair.1 = bytesOf key := by simpa using List.find?_some listed
      exact ⟨segment, member, by rw [reads, ← named]⟩

theorem setting_some {segment : List QueryToken} {key value : List UInt8}
    (read : setting segment = some (key, value)) :
    .semi ∉ segment ∧ .malformed ∉ segment ∧
      (segment.takeWhile (· ≠ .equals)).map QueryToken.byte = key ∧
      (segment.dropWhile (· ≠ .equals)).tail.map QueryToken.byte = value := by
  unfold setting at read
  split at read
  · cases read
  · rename_i valid
    obtain ⟨rfl, rfl⟩ := Prod.mk.inj (Option.some.inj read)
    simp only [not_or] at valid
    exact ⟨valid.2.1, valid.2.2, rfl, rfl⟩

/-- A setting is longer than its value by the key and the sign between them. -/
theorem setting_length {segment : List QueryToken} {key value : List UInt8}
    (read : setting segment = some (key, value)) (given : value ≠ []) :
    key.length + 1 + value.length = segment.length := by
  obtain ⟨-, -, rfl, rfl⟩ := setting_some read
  have parts := congrArg List.length (List.takeWhile_append_dropWhile (p := (· ≠ .equals)) (l := segment))
  rw [List.length_append] at parts
  cases rest : segment.dropWhile (· ≠ .equals) with
  | nil =>
      rw [rest] at given
      exact absurd rfl given
  | cons sign value =>
      rw [rest, List.length_cons] at parts
      rw [List.tail_cons, List.length_map, List.length_map]
      omega

end SprHomeAssistant.Go
