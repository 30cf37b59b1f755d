import SprHomeAssistant.Go.Text

/-! Decimal and hexadecimal numerals as `strconv` reads them.

The digits of a numeral may be any number, with zeros in front. A decimal number beyond the
range of the result is cut to its end; a hexadecimal one is refused.
-/

set_option autoImplicit false

namespace SprHomeAssistant.Go

def IsDigit (c : Char) : Prop := '0' ≤ c ∧ c ≤ '9'

structure IsNumeral (s : String) : Prop where
  nonempty : s.toList ≠ []
  digits : ∀ c ∈ s.toList, IsDigit c

/-- The number that digits stand for behind those already read. -/
def decimalFrom (n : Nat) (digits : List Char) : Nat :=
  digits.foldl (fun n c => 10 * n + (c.toNat - '0'.toNat)) n

def decimal (s : String) : Nat := decimalFrom 0 s.toList

theorem le_decimalFrom (digits : List Char) : ∀ n, n ≤ decimalFrom n digits := by
  induction digits with
  | nil => exact fun n => le_rfl
  | cons c rest ih =>
      intro n
      have later := ih (10 * n + (c.toNat - '0'.toNat))
      change n ≤ decimalFrom (10 * n + (c.toNat - '0'.toNat)) rest
      omega

theorem digitValue_of_digit {c : Char} (digit : IsDigit c) :
    digitValue c = some (c.toNat - '0'.toNat) ∧ c.toNat - '0'.toNat < 10 := by
  obtain ⟨low, high⟩ := digit
  refine ⟨if_pos ⟨low, high⟩, ?_⟩
  have bound : c.toNat ≤ '9'.toNat := high
  have nine : '9'.toNat = 57 := rfl
  have zero : '0'.toNat = 48 := rfl
  omega

/-- The digit loop on digits gives the number, or the limit where the number is beyond it. -/
theorem parseDigits_decimal {limit : Nat} {digits : List Char} (all : ∀ c ∈ digits, IsDigit c) :
    ∀ n ≤ limit, parseDigits 10 limit digits n =
      if decimalFrom n digits ≤ limit then (decimalFrom n digits, none) else (limit, some .outOfRange) := by
  -- the loop stops at the digit that takes it past the limit, and more digits only add
  induction digits with
  | nil => exact fun n within => (if_pos within).symm
  | cons c rest ih =>
      intro n within
      obtain ⟨value, small⟩ := digitValue_of_digit (all c List.mem_cons_self)
      have next : decimalFrom n (c :: rest) = decimalFrom (10 * n + (c.toNat - '0'.toNat)) rest := rfl
      have grows := le_decimalFrom rest (10 * n + (c.toNat - '0'.toNat))
      simp only [parseDigits, value, next, mul_comm n 10]
      rw [if_neg (by omega)]
      by_cases past : limit < 10 * n + (c.toNat - '0'.toNat)
      · rw [if_pos past, if_neg (by omega)]
      · rw [if_neg past]
        exact ih (fun d member => all d (List.mem_cons_of_mem _ member)) _ (by omega)

theorem splitSign_numeral {s : String} (numeral : IsNumeral s) : splitSign s.toList = (false, s.toList) := by
  obtain ⟨nonempty, digits⟩ := numeral
  cases shape : s.toList with
  | nil => exact absurd shape nonempty
  | cons first rest =>
      have digit : IsDigit first := digits first (by simp [shape])
      unfold splitSign
      split
      next same =>
        obtain rfl := (List.cons.inj same).1
        exact absurd digit (by unfold IsDigit; decide)
      next same =>
        obtain rfl := (List.cons.inj same).1
        exact absurd digit (by unfold IsDigit; decide)
      next => rfl

/-- `strconv.Atoi` on a numeral, whose error is left out, gives its number or the greatest
that fits. -/
theorem atoi_numeral {s : String} (numeral : IsNumeral s) :
    (atoi s).1 = (min (decimal s) (2 ^ 63 - 1) : Nat) := by
  have filled : s.toList.isEmpty = false := by simpa using numeral.nonempty
  have read : parseUint s.toList 10 64 =
      if decimal s ≤ 2 ^ 64 - 1 then (decimal s, none) else (2 ^ 64 - 1, some .outOfRange) := by
    rw [parseUint, filled, if_neg Bool.false_ne_true]
    exact parseDigits_decimal numeral.digits 0 (Nat.zero_le _)
  unfold atoi parseInt
  rw [splitSign_numeral numeral]
  dsimp only
  rw [read]
  by_cases fits : decimal s ≤ 2 ^ 64 - 1
  · simp only [if_pos fits]
    by_cases small : decimal s < 2 ^ 63
    · rw [if_neg Bool.false_ne_true, if_neg (by omega), min_eq_left (by omega)]
    · rw [if_neg Bool.false_ne_true, if_pos (by omega), min_eq_right (by omega)]
      norm_num
  · simp only [if_neg fits]
    rw [if_neg Bool.false_ne_true, if_pos (by norm_num), min_eq_right (by omega)]
    norm_num

/-! ## Hexadecimal numbers -/

def IsHexDigit (c : Char) : Prop := IsDigit c ∨ ('a' ≤ c ∧ c ≤ 'f') ∨ ('A' ≤ c ∧ c ≤ 'F')

instance (c : Char) : Decidable (IsHexDigit c) :=
  inferInstanceAs (Decidable (('0' ≤ c ∧ c ≤ '9') ∨ ('a' ≤ c ∧ c ≤ 'f') ∨ ('A' ≤ c ∧ c ≤ 'F')))

def hexValue (c : Char) : Nat :=
  if c ≤ '9' then c.toNat - '0'.toNat
  else if c ≤ 'F' then c.toNat - 'A'.toNat + 10
  else c.toNat - 'a'.toNat + 10

structure IsHexadecimal (digits : List Char) : Prop where
  nonempty : digits ≠ []
  digits : ∀ c ∈ digits, IsHexDigit c

/-- The number that hexadecimal digits stand for, the greatest first. -/
def hexadecimal (digits : List Char) : Nat := Nat.ofDigits 16 (digits.reverse.map hexValue)

/-- Hexadecimal digits behind an optional sign, and the number they write. -/
inductive WritesHex : List Char → Int → Prop where
  | unsigned {digits : List Char} (hex : IsHexadecimal digits) : WritesHex digits (hexadecimal digits)
  | positive {digits : List Char} (hex : IsHexadecimal digits) :
      WritesHex ('+' :: digits) (hexadecimal digits)
  | negative {digits : List Char} (hex : IsHexadecimal digits) :
      WritesHex ('-' :: digits) (-hexadecimal digits)

/-- The digits that base 16 takes are the hexadecimal ones. -/
theorem digitValue_hex (c : Char) :
    (digitValue c).filter (· < 16) = if IsHexDigit c then some (hexValue c) else none := by
  by_cases ascii : c.toNat < 128
  · let agrees (c : Char) : Bool :=
      (digitValue c).filter (· < 16) = if IsHexDigit c then some (hexValue c) else none
    have checked : ((List.range 128).all fun code => agrees (Char.ofNat code)) = true := by decide +kernel
    exact of_decide_eq_true (ascii_of_checked checked ascii)
  · have above (last : Char) (low : last.toNat < 128) : ¬ c ≤ last := fun below =>
      ascii (lt_of_le_of_lt (show c.toNat ≤ last.toNat from below) low)
    have caseless : c.toLower = c := by
      rw [Char.toLower, dif_neg]
      exact fun upper => above 'Z' (by decide) upper.2
    have plain : ¬ IsHexDigit c := by
      rintro (⟨_, last⟩ | ⟨_, last⟩ | ⟨_, last⟩)
      · exact above '9' (by decide) last
      · exact above 'f' (by decide) last
      · exact above 'F' (by decide) last
    have undigited : digitValue c = none := by
      rw [digitValue, caseless, if_neg fun range => above '9' (by decide) range.2,
        if_neg fun range => above 'z' (by decide) range.2]
    rw [undigited, if_neg plain]
    rfl

/-- The number after hexadecimal digits are read behind one already read. -/
def hexadecimalFrom (n : Nat) (digits : List Char) : Nat :=
  digits.foldl (fun n c => n * 16 + hexValue c) n

theorem hexadecimalFrom_zero (digits : List Char) : hexadecimalFrom 0 digits = hexadecimal digits := by
  simp only [hexadecimalFrom, hexadecimal, Nat.ofDigits_eq_foldr, List.foldr_map, List.foldr_reverse,
    Nat.cast_id, mul_comm, add_comm]

theorem le_hexadecimalFrom (digits : List Char) : ∀ n, n ≤ hexadecimalFrom n digits := by
  induction digits with
  | nil => exact fun n => le_rfl
  | cons c rest ih =>
      intro n
      have later := ih (n * 16 + hexValue c)
      change n ≤ hexadecimalFrom (n * 16 + hexValue c) rest
      omega

/-- The digit loop succeeds on hexadecimal digits whose number is within the limit. -/
theorem parseDigits_hex_iff {limit m : Nat} (digits : List Char) : ∀ n ≤ limit,
    (parseDigits 16 limit digits n = (m, none) ↔
      (∀ c ∈ digits, IsHexDigit c) ∧ hexadecimalFrom n digits ≤ limit ∧ m = hexadecimalFrom n digits) := by
  induction digits with
  | nil =>
      intro n within
      simp [parseDigits, hexadecimalFrom, within, eq_comm]
  | cons c rest ih =>
      intro n within
      have next : hexadecimalFrom n (c :: rest) = hexadecimalFrom (n * 16 + hexValue c) rest := rfl
      have grows := le_hexadecimalFrom rest (n * 16 + hexValue c)
      have read := digitValue_hex c
      rw [parseDigits, List.forall_mem_cons, next]
      by_cases hex : IsHexDigit c
      · rw [if_pos hex] at read
        obtain ⟨value, small⟩ := Option.filter_eq_some_iff.mp read
        simp only [value, hex, true_and]
        rw [if_neg (by simpa using small)]
        by_cases past : limit < n * 16 + hexValue c
        · rw [if_pos past]
          simp only [Prod.mk.injEq, reduceCtorEq, and_false, false_iff]
          omega
        · rw [if_neg past]
          exact ih _ (by omega)
      · rw [if_neg hex, Option.filter_eq_none_iff] at read
        simp only [hex, false_and, iff_false]
        cases value : digitValue c with
        | none => simp
        | some d =>
            have large : 16 ≤ d := by simpa using read d value
            simp [large]

theorem parseDigits_outOfRange {base limit m : Nat} (digits : List Char) : ∀ n,
    parseDigits base limit digits n = (m, some .outOfRange) → m = limit := by
  induction digits with
  | nil => simp [parseDigits]
  | cons c rest ih =>
      intro n
      rw [parseDigits]
      split
      next => simp
      next d _ =>
        split_ifs
        · simp
        · simp [eq_comm]
        · exact ih _

theorem parseUint_outOfRange {digits : List Char} {base bitSize m : Nat}
    (beyond : parseUint digits base bitSize = (m, some .outOfRange)) : m = 2 ^ bitSize - 1 := by
  unfold parseUint at beyond
  split at beyond
  next => simp at beyond
  next => exact parseDigits_outOfRange digits 0 beyond

theorem parseUint_hex_iff {digits : List Char} {bitSize n : Nat} :
    parseUint digits 16 bitSize = (n, none) ↔
      IsHexadecimal digits ∧ hexadecimal digits ≤ 2 ^ bitSize - 1 ∧ n = hexadecimal digits := by
  cases digits with
  | nil => simpa [parseUint] using fun hex : IsHexadecimal [] => absurd rfl hex.nonempty
  | cons c rest =>
      have hex : IsHexadecimal (c :: rest) ↔ ∀ d ∈ c :: rest, IsHexDigit d :=
        ⟨fun hex => hex.digits, fun digits => ⟨List.cons_ne_nil _ _, digits⟩⟩
      rw [hex, ← hexadecimalFrom_zero]
      exact parseDigits_hex_iff (c :: rest) 0 (Nat.zero_le _)

theorem IsHexadecimal.unsigned {digits : List Char} (hex : IsHexadecimal digits) :
    splitSign digits = (false, digits) := by
  obtain ⟨nonempty, digits⟩ := hex
  unfold splitSign
  split
  next => exact absurd (digits '+' List.mem_cons_self) (by decide)
  next => exact absurd (digits '-' List.mem_cons_self) (by decide)
  next => rfl

theorem writesHex_iff {cs : List Char} {flags : Int} : WritesHex cs flags ↔
    IsHexadecimal (splitSign cs).2 ∧
      flags = if (splitSign cs).1 then -(hexadecimal (splitSign cs).2 : Int) else hexadecimal (splitSign cs).2 := by
  constructor
  · intro writes
    cases writes with
    | unsigned hex => simpa [hex.unsigned] using hex
    | positive hex => simpa [splitSign] using hex
    | negative hex => simpa [splitSign] using hex
  · rintro ⟨hex, rfl⟩
    unfold splitSign at hex ⊢
    split at hex
    next digits => exact .positive hex
    next digits => exact .negative hex
    next => exact .unsigned hex

/-- `strconv.ParseInt` reads the hexadecimal numbers that fit behind a sign bit. -/
theorem parseInt_hex_iff (s : String) {bits : Nat} (several : 1 ≤ bits) (flags : Int) :
    parseInt s 16 (bits + 1) = (flags, none) ↔
      WritesHex s.toList flags ∧ -2 ^ bits ≤ flags ∧ flags < 2 ^ bits := by
  have double : 2 ^ (bits + 1) = 2 * 2 ^ bits := Nat.pow_succ'
  have two : 2 ≤ 2 ^ bits := Nat.le_self_pow (Nat.one_le_iff_ne_zero.mp several) 2
  have cast : (2 : Int) ^ bits = (2 ^ bits : Nat) := by push_cast; rfl
  rw [writesHex_iff, cast, parseInt, Nat.add_sub_cancel]
  generalize splitSign s.toList = parts
  obtain ⟨negative, digits⟩ := parts
  dsimp only
  have parsed : ∀ n, parseUint digits 16 (bits + 1) = (n, none) ↔
      IsHexadecimal digits ∧ hexadecimal digits ≤ 2 ^ (bits + 1) - 1 ∧ n = hexadecimal digits :=
    fun _ => parseUint_hex_iff
  have limited : ∀ n, parseUint digits 16 (bits + 1) = (n, some .outOfRange) → n = 2 ^ (bits + 1) - 1 :=
    fun _ => parseUint_outOfRange
  generalize 2 ^ bits = cutoff at double two
  rw [double] at parsed limited
  -- a number that fits behind the sign is within what the digit loop takes
  have whole : (IsHexadecimal digits ∧
      flags = if negative then -(hexadecimal digits : Int) else hexadecimal digits) ∧
        -(cutoff : Int) ≤ flags ∧ flags < cutoff → parseUint digits 16 (bits + 1) = (hexadecimal digits, none) := by
    rintro ⟨⟨hex, rfl⟩, low, high⟩
    refine (parsed _).mpr ⟨hex, ?_, rfl⟩
    cases negative with
    | false => simp only [Bool.false_eq_true, if_false] at high; omega
    | true => simp only [if_true] at low; omega
  rcases read : parseUint digits 16 (bits + 1) with ⟨n, _ | _ | _⟩
  · obtain ⟨hex, _, rfl⟩ := (parsed n).mp read
    cases negative with
    | false =>
        simp only [Bool.false_eq_true, if_false, hex, true_and]
        split_ifs <;> simp <;> omega
    | true =>
        simp only [if_true, hex, true_and]
        split_ifs <;> simp <;> omega
  · simp only [Prod.mk.injEq, reduceCtorEq, and_false, false_iff]
    exact mt whole (by simp [read])
  · obtain rfl := limited n read
    have refused := mt whole (by simp [read])
    cases negative with
    | false =>
        simp only [Bool.false_eq_true, if_false] at refused ⊢
        rw [if_pos (by omega)]
        simpa using refused
    | true =>
        simp only [if_true] at refused ⊢
        rw [if_pos (by omega)]
        simpa using refused

end SprHomeAssistant.Go
