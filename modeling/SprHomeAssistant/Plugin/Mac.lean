import SprHomeAssistant.Go.Text

/-! MAC spellings. The plugin compares stations by the spelling `normalizeMAC` gives. -/

set_option autoImplicit false

namespace SprHomeAssistant.Plugin
open Go

def normalizeMAC (mac : String) : String := toLower (replaceAll (trimSpace mac) '-' ':')

/-- `[0-9a-f]`. -/
def isHexDigit (c : Char) : Bool := ('0' ≤ c && c ≤ '9') || ('a' ≤ c && c ≤ 'f')

/-- `([0-9a-f]{2}:){n}[0-9a-f]{2}` against the whole list. -/
def matchPairs : Nat → List Char → Bool
  | 0, [high, low] => isHexDigit high && isHexDigit low
  | n + 1, high :: low :: ':' :: rest => isHexDigit high && isHexDigit low && matchPairs n rest
  | _, _ => false

def macRe (s : String) : Bool := matchPairs 5 s.toList

def isMAC (s : String) : Bool := macRe (normalizeMAC s)

def isMacLetter (c : Char) : Bool := isHexDigit c || c == ':'

theorem matchPairs_letters {n : Nat} {cs : List Char} (matched : matchPairs n cs = true) :
    ∀ c ∈ cs, isMacLetter c = true := by
  fun_induction matchPairs n cs with
  | case1 high low => simp_all [isMacLetter]
  | case2 n high low rest ih => simp_all [isMacLetter]
  | case3 => simp at matched

def normalizeLetter (c : Char) : Char := unicodeToLower (if c = '-' then ':' else c)

theorem normalizeMAC_toList (mac : String) :
    (normalizeMAC mac).toList = (trimList mac.toList).map normalizeLetter := by
  simp [normalizeMAC, toLower, replaceAll, trimSpace, normalizeLetter, Function.comp_def]

theorem normalizeLetter_isSpace (c : Char) : isSpace (normalizeLetter c) = isSpace c := by
  cases space : isSpace c with
  | true =>
      have dash : c ≠ '-' := by rintro rfl; exact absurd space (by decide)
      rw [normalizeLetter, if_neg dash, unicodeToLower_space space, space]
  | false =>
      rw [normalizeLetter]
      generalize dashless : (if c = '-' then ':' else c) = e
      have solid : isSpace e = false := by
        subst dashless
        split
        · decide
        · exact space
      -- the 128 letters of ASCII are checked one by one, the ranges above them by their ends
      by_cases ascii : e.toNat < 128
      · have same := ascii_of_checked (p := fun e => isSpace e.toLower == isSpace e) (by decide) ascii
        rw [unicodeToLower_ascii ascii, beq_iff_eq.mp same, solid]
      · rcases unicodeToLower_above (Nat.not_lt.mp ascii) with image | image | ⟨_, image⟩
        · rw [image]; decide
        · rw [image]; decide
        · rw [Bool.eq_false_iff]
          intro spaced
          simp [image spaced] at solid

/-- The letters normalisation produces: never a dash, and an ASCII one is in lower case. -/
theorem normalizeLetter_range (c : Char) :
    normalizeLetter c ≠ '-' ∧
      ((normalizeLetter c).toNat < 128 → (normalizeLetter c).toLower = normalizeLetter c) := by
  rw [normalizeLetter]
  generalize dashless : (if c = '-' then ':' else c) = e
  have letter : e ≠ '-' := by
    subst dashless
    split
    · decide
    · assumption
  by_cases ascii : e.toNat < 128
  · have lower := ascii_of_checked
      (p := fun e => e == '-' || (e.toLower != '-' && e.toLower.toLower == e.toLower))
      (by decide) ascii
    simp only [Bool.or_eq_true, beq_iff_eq, letter, false_or, Bool.and_eq_true, bne_iff_ne] at lower
    rw [unicodeToLower_ascii ascii]
    exact ⟨lower.1, fun _ => lower.2⟩
  · rcases unicodeToLower_above (Nat.not_lt.mp ascii) with image | image | ⟨image, _⟩
    · rw [image]; decide
    · rw [image]; decide
    · refine ⟨?_, fun small => absurd small (Nat.not_lt.mpr image)⟩
      intro dash
      rw [dash] at image
      exact absurd image (by decide)

theorem isMacLetter_ascii {c : Char} (letter : isMacLetter c = true) :
    c.toNat < 128 ∧ c ≠ 'i' ∧ c ≠ 'k' := by
  simp only [isMacLetter, isHexDigit, Bool.or_eq_true, Bool.and_eq_true, decide_eq_true_eq,
    beq_iff_eq] at letter
  have ascii : c.toNat < 128 := by
    rcases letter with (⟨_, high⟩ | ⟨_, high⟩) | rfl
    · exact Nat.lt_of_le_of_lt (show c.toNat ≤ '9'.toNat from high) (by decide)
    · exact Nat.lt_of_le_of_lt (show c.toNat ≤ 'f'.toNat from high) (by decide)
    · decide
  refine ⟨ascii, ?_, ?_⟩ <;> rintro rfl <;> exact absurd letter (by decide)

theorem normalizeLetter_fixed {c : Char}
    (letter : isMacLetter (normalizeLetter (normalizeLetter c)) = true) :
    normalizeLetter (normalizeLetter c) = normalizeLetter c := by
  obtain ⟨dash, lower⟩ := normalizeLetter_range c
  generalize normalizeLetter c = b at *
  rw [normalizeLetter, if_neg dash] at letter ⊢
  obtain ⟨small, i, k⟩ := isMacLetter_ascii letter
  by_cases ascii : b.toNat < 128
  · rw [unicodeToLower_ascii ascii, lower ascii]
  · rcases unicodeToLower_above (Nat.not_lt.mp ascii) with image | image | ⟨image, _⟩
    · exact absurd image i
    · exact absurd image k
    · exact absurd small (Nat.not_lt.mpr image)

/-- A normalised spelling has no white space around it. -/
theorem trimList_normalizeMAC (mac : String) :
    trimList (normalizeMAC mac).toList = (normalizeMAC mac).toList := by
  rw [normalizeMAC_toList, trimList_map normalizeLetter_isSpace, trimList_idempotent]

/-- A spelling that is a MAC normalises to a canonical one. -/
theorem normalizeMAC_canonical {mac : String} (valid : isMAC (normalizeMAC mac) = true) :
    normalizeMAC (normalizeMAC mac) = normalizeMAC mac := by
  have letters := matchPairs_letters valid
  have trimmed := trimList_normalizeMAC mac
  rw [normalizeMAC_toList, trimmed, normalizeMAC_toList] at letters
  apply String.toList_injective
  rw [normalizeMAC_toList, trimmed, normalizeMAC_toList, List.map_map]
  apply List.map_congr_left
  intro c member
  exact normalizeLetter_fixed (letters _ (List.mem_map_of_mem (List.mem_map_of_mem member)))

/-- The normalised spelling of a MAC is a fixed point. -/
theorem normalizeMAC_fixed {mac : String} (valid : isMAC mac = true) :
    normalizeMAC (normalizeMAC mac) = normalizeMAC mac := by
  have letters := matchPairs_letters valid
  apply String.toList_injective
  rw [normalizeMAC_toList, trimList_normalizeMAC]
  rw [normalizeMAC_toList] at letters ⊢
  rw [List.map_map]
  apply List.map_congr_left
  intro c member
  obtain ⟨dash, lower⟩ := normalizeLetter_range c
  have ascii := (isMacLetter_ascii (letters _ (List.mem_map_of_mem member))).1
  rw [Function.comp_apply, normalizeLetter.eq_def (normalizeLetter c), if_neg dash,
    unicodeToLower_ascii ascii, lower ascii]

/-- The check sees through normalisation. -/
theorem isMAC_normalizeMAC (mac : String) : isMAC (normalizeMAC mac) = isMAC mac := by
  have same : normalizeMAC (normalizeMAC mac) = normalizeMAC mac →
      isMAC (normalizeMAC mac) = isMAC mac := fun canonical => by rw [isMAC, isMAC, canonical]
  cases valid : isMAC mac with
  | true => rw [same (normalizeMAC_fixed valid), valid]
  | false =>
      rw [Bool.eq_false_iff]
      intro normalized
      rw [same (normalizeMAC_canonical normalized), valid] at normalized
      cases normalized

end SprHomeAssistant.Plugin
