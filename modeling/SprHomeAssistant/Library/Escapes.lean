import Mathlib.Data.List.Flatten

/-! Texts in which three symbols may stand for one token.

`escape` tells whether a text begins with an escape; any other symbol stands for the
tokens that `literal` gives it. A text of literals only is the longest reading there is.
-/

set_option autoImplicit false

namespace SprHomeAssistant.Library.Escapes

variable {Symbol Token : Type}

def readFrom (escape : List Symbol → Option Token) (literal : Symbol → List Token) :
    Nat → List Symbol → List Token
  | _, [] => []
  -- the rest of an escape whose first symbol was already read
  | skip + 1, _ :: rest => readFrom escape literal skip rest
  | 0, c :: rest =>
      match escape (c :: rest) with
      | some token => token :: readFrom escape literal 2 rest
      | none => literal c ++ readFrom escape literal 0 rest

def read (escape : List Symbol → Option Token) (literal : Symbol → List Token) (text : List Symbol) :
    List Token :=
  readFrom escape literal 0 text

/-- No escape begins anywhere in the text. -/
def plain (escape : List Symbol → Option Token) : List Symbol → Bool
  | [] => true
  | c :: rest => (escape (c :: rest)).isNone && plain escape rest

variable {escape : List Symbol → Option Token} {literal : Symbol → List Token}

theorem read_escape {c : Symbol} {rest : List Symbol} {token : Token} (begins : escape (c :: rest) = some token) :
    read escape literal (c :: rest) = token :: readFrom escape literal 2 rest := by
  rw [read, readFrom, begins]

theorem read_literal {c : Symbol} {rest : List Symbol} (begins : escape (c :: rest) = none) :
    read escape literal (c :: rest) = literal c ++ read escape literal rest := by
  rw [read, readFrom, begins, read]

theorem read_plain {text : List Symbol} (unescaped : plain escape text = true) :
    read escape literal text = text.flatMap literal := by
  induction text with
  | nil => rfl
  | cons c rest ih =>
      obtain ⟨own, others⟩ := Bool.and_eq_true_iff.mp unescaped
      rw [read_literal (Option.isNone_iff_eq_none.mp own), ih others, List.flatMap_cons]

theorem readFrom_length_le (escape : List Symbol → Option Token) (occupies : ∀ c, 1 ≤ (literal c).length)
    (skip : Nat) (text : List Symbol) :
    (readFrom escape literal skip text).length ≤ ((text.drop skip).flatMap literal).length := by
  induction text generalizing skip with
  | nil => simp [readFrom]
  | cons c rest ih =>
      cases skip with
      | succ skip => exact ih skip
      | zero =>
          rw [readFrom, List.drop_zero, List.flatMap_cons, List.length_append]
          have own := occupies c
          split
          next token begins =>
            have shorter := ((List.drop_sublist 2 rest).flatMap literal).length_le
            have later := ih 2
            rw [List.length_cons]
            omega
          next begins =>
            have later := ih 0
            rw [List.drop_zero] at later
            rw [List.length_append]
            omega

/-- An escape makes the reading shorter than the literals would. -/
theorem plain_of_length_le (occupies : ∀ c, 1 ≤ (literal c).length)
    (wide : ∀ text token, escape text = some token → 3 ≤ text.length) {text : List Symbol}
    (whole : (text.flatMap literal).length ≤ (read escape literal text).length) :
    plain escape text = true := by
  induction text with
  | nil => rfl
  | cons c rest ih =>
      rw [List.flatMap_cons, List.length_append] at whole
      cases begins : escape (c :: rest) with
      | none =>
          rw [read_literal begins, List.length_append] at whole
          rw [plain, begins, ih (by omega)]
          rfl
      | some token =>
          have three := wide _ _ begins
          have own := occupies c
          have later := readFrom_length_le escape occupies 2 rest
          rw [read_escape begins, List.length_cons] at whole
          match rest, three with
          | second :: third :: rest, _ =>
              have next := occupies second
              have last := occupies third
              simp only [List.drop_succ_cons, List.drop_zero, List.flatMap_cons, List.length_append] at later whole
              omega

/-- Every token read is that of an escape or of a symbol. -/
theorem mem_readFrom {skip : Nat} {text : List Symbol} {token : Token}
    (member : token ∈ readFrom escape literal skip text) :
    (∃ later, escape later = some token) ∨ ∃ c, token ∈ literal c := by
  induction text generalizing skip with
  | nil => simp [readFrom] at member
  | cons c rest ih =>
      cases skip with
      | succ skip => exact ih member
      | zero =>
          rw [readFrom] at member
          split at member
          next begins =>
            rcases List.mem_cons.mp member with rfl | later
            · exact Or.inl ⟨_, begins⟩
            · exact ih later
          next =>
            rcases List.mem_append.mp member with own | later
            · exact Or.inr ⟨c, own⟩
            · exact ih later

end SprHomeAssistant.Library.Escapes
