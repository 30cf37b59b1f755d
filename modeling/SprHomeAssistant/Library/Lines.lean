import Mathlib.Data.List.Basic

/-! Streams of symbols read line by line, in pieces of any size.

A line ends with its stop symbol. A reader holds the line that is not complete yet, and
gives up on one that grows beyond its limit.
-/

set_option autoImplicit false

namespace SprHomeAssistant.Library.Lines

variable {Symbol : Type}

/-- A line with its stop at the end and nowhere else, not longer than the limit. -/
def IsLine (stop : Symbol) (limit : Nat) (line : List Symbol) : Prop :=
  (∃ text, line = text ++ [stop] ∧ stop ∉ text) ∧ line.length ≤ limit

/-- A beginning of a line within the limit. -/
def Unfinished (stop : Symbol) (limit : Nat) (rest : List Symbol) : Prop :=
  stop ∉ rest ∧ rest.length ≤ limit

/-- A line longer than the limit, whether its stop has come or not. -/
def Overlong (stop : Symbol) (limit : Nat) (rest : List Symbol) : Prop :=
  stop ∉ rest.take limit ∧ limit < rest.length

/-- A part of a stream of lines ends between two of them or within one. -/
theorem exists_cut {stop : Symbol} {limit : Nat} {lines : List (List Symbol)}
    (complete : ∀ line ∈ lines, IsLine stop limit line) {read : List Symbol} (part : read <+: lines.flatten) :
    ∃ first later rest, lines = first ++ later ∧ read = first.flatten ++ rest ∧ Unfinished stop limit rest := by
  have none : Unfinished stop limit ([] : List Symbol) := ⟨by simp, Nat.zero_le _⟩
  induction lines generalizing read with
  | nil => exact ⟨[], [], [], rfl, List.prefix_nil.mp part, none⟩
  | cons line lines ih =>
      obtain ⟨own, others⟩ := List.forall_mem_cons.mp complete
      rw [List.flatten_cons] at part
      -- the stream is cut within the first line, or after it
      rcases List.prefix_or_prefix_of_prefix part (List.prefix_append line lines.flatten) with within | ⟨more, rfl⟩
      · obtain ⟨⟨text, rfl, absent⟩, fits⟩ := own
        rcases List.prefix_concat_iff.mp within with rfl | short
        · exact ⟨[text ++ [stop]], lines, [], rfl, by simp, none⟩
        · refine ⟨[], (text ++ [stop]) :: lines, read, rfl, rfl, fun stopped => absent (short.subset stopped), ?_⟩
          exact Nat.le_trans within.length_le fits
      · obtain ⟨first, later, rest, split, begun, unfinished⟩ := ih others ((List.prefix_append_right_inj line).mp part)
        exact ⟨line :: first, later, rest, by rw [split]; rfl, by rw [begun, List.flatten_cons, List.append_assoc],
          unfinished⟩

variable [DecidableEq Symbol]

/-- Reads on with a held beginning: the lines that became complete, and what is held now,
unless a line was too long. -/
def feed (stop : Symbol) (limit : Nat) : List Symbol → List Symbol → List (List Symbol) × Option (List Symbol)
  | held, [] => ([], some held)
  | held, s :: rest =>
      let line := held ++ [s]
      if limit < line.length then ([], none)
      else if s = stop then
        let later := feed stop limit [] rest
        (line :: later.1, later.2)
      else feed stop limit line rest

def feedChunks (stop : Symbol) (limit : Nat) :
    List Symbol → List (List Symbol) → List (List Symbol) × Option (List Symbol)
  | held, [] => ([], some held)
  | held, chunk :: rest =>
      match feed stop limit held chunk with
      | (lines, none) => (lines, none)
      | (lines, some held) =>
          let later := feedChunks stop limit held rest
          (lines ++ later.1, later.2)

variable {stop : Symbol} {limit : Nat}

theorem feed_append (held first rest : List Symbol) :
    feed stop limit held (first ++ rest) =
      match feed stop limit held first with
      | (lines, none) => (lines, none)
      | (lines, some held) =>
          let later := feed stop limit held rest
          (lines ++ later.1, later.2) := by
  induction first generalizing held with
  | nil => rfl
  | cons s first ih =>
      simp only [List.cons_append, feed]
      by_cases long : limit < (held ++ [s]).length
      · simp only [long, if_true]
      · by_cases same : s = stop
        · subst same
          simp only [long, if_true, if_false, ih []]
          cases feed s limit [] first with
          | mk lines held => cases held <;> rfl
        · simp only [long, same, if_false, ih]

/-- It does not matter how a stream was cut into pieces. -/
theorem feedChunks_eq (held : List Symbol) (chunks : List (List Symbol)) :
    feedChunks stop limit held chunks = feed stop limit held chunks.flatten := by
  induction chunks generalizing held with
  | nil => rfl
  | cons chunk rest ih =>
      rw [List.flatten_cons, feed_append, feedChunks]
      cases feed stop limit held chunk with
      | mk lines held =>
          cases held with
          | none => rfl
          | some held => simp only [ih]

theorem feed_unfinished {held rest : List Symbol} (unfinished : Unfinished stop limit (held ++ rest)) :
    feed stop limit held rest = ([], some (held ++ rest)) := by
  induction rest generalizing held with
  | nil => simp [feed]
  | cons s rest ih =>
      have moved : held ++ s :: rest = (held ++ [s]) ++ rest := by simp
      have other : s ≠ stop := fun same => unfinished.1 (by simp [same])
      have short : ¬ limit < (held ++ [s]).length := by
        have := unfinished.2
        rw [moved, List.length_append] at this
        omega
      rw [moved] at unfinished ⊢
      simp only [feed, short, other, if_false]
      exact ih unfinished

theorem feed_line {line : List Symbol} (complete : IsLine stop limit line) (rest : List Symbol) :
    feed stop limit [] (line ++ rest) =
      (line :: (feed stop limit [] rest).1, (feed stop limit [] rest).2) := by
  obtain ⟨⟨text, rfl, absent⟩, short⟩ := complete
  have begun : Unfinished stop limit ([] ++ text) := ⟨absent, by simp at short ⊢; omega⟩
  have fits : ¬ limit < (text ++ [stop]).length := by omega
  rw [List.append_assoc, feed_append, feed_unfinished begun]
  simp only [List.nil_append, List.singleton_append, feed, fits, if_true, if_false]

theorem feed_lines {lines : List (List Symbol)} (complete : ∀ line ∈ lines, IsLine stop limit line)
    (rest : List Symbol) :
    feed stop limit [] (lines.flatten ++ rest) =
      (lines ++ (feed stop limit [] rest).1, (feed stop limit [] rest).2) := by
  induction lines with
  | nil => rfl
  | cons line lines ih =>
      rw [List.flatten_cons, List.append_assoc, feed_line (complete line (by simp)),
        ih fun line member => complete line (List.mem_cons_of_mem _ member)]
      rfl

theorem feed_overlong {rest : List Symbol} (overlong : Overlong stop limit rest) :
    feed stop limit [] rest = ([], none) := by
  obtain ⟨absent, long⟩ := overlong
  have begun : Unfinished stop limit ([] ++ rest.take limit) := ⟨absent, List.length_take_le _ _⟩
  obtain ⟨next, later, split⟩ := List.exists_cons_of_length_pos (l := rest.drop limit) (by simp; omega)
  have full : limit < (rest.take limit ++ [next]).length := by simp; omega
  rw [← List.take_append_drop limit rest, feed_append, feed_unfinished begun, split]
  simp only [List.nil_append, feed, full, if_true, List.append_nil]

/-- Every stream is made of complete lines, and of one at its end that is unfinished or
too long. -/
theorem exists_lines (stop : Symbol) (limit : Nat) (stream : List Symbol) :
    ∃ (lines : List (List Symbol)) (rest : List Symbol), stream = lines.flatten ++ rest ∧
      (∀ line ∈ lines, IsLine stop limit line) ∧ (Unfinished stop limit rest ∨ Overlong stop limit rest) := by
  induction length : stream.length using Nat.strongRecOn generalizing stream with
  | ind n ih =>
      subst length
      -- only a stop within the limit ends a line
      by_cases found : stop ∈ stream.take limit
      · obtain ⟨text, later, split, absent⟩ := List.eq_append_cons_of_mem found
        have whole : stream = (text ++ [stop]) ++ (later ++ stream.drop limit) := by
          rw [← List.append_assoc, List.append_assoc text, List.singleton_append, ← split,
            List.take_append_drop]
        have fits : (text ++ [stop]).length ≤ limit := by
          have bound := List.length_take_le limit stream
          rw [split] at bound
          simp at bound ⊢
          omega
        have shorter : (later ++ stream.drop limit).length < stream.length := by
          have length := congrArg List.length whole
          simp only [List.length_append, List.length_singleton] at length ⊢
          omega
        obtain ⟨lines, rest, later, complete, last⟩ := ih _ shorter _ rfl
        refine ⟨(text ++ [stop]) :: lines, rest, ?_, ?_, last⟩
        · rw [whole, List.flatten_cons, List.append_assoc _ lines.flatten, later]
        · exact List.forall_mem_cons.mpr ⟨⟨⟨text, rfl, absent⟩, fits⟩, complete⟩
      · rcases Nat.lt_or_ge limit stream.length with long | short
        · exact ⟨[], stream, rfl, by simp, Or.inr ⟨found, long⟩⟩
        · rw [List.take_of_length_le short] at found
          exact ⟨[], stream, rfl, by simp, Or.inl ⟨found, short⟩⟩

end SprHomeAssistant.Library.Lines
