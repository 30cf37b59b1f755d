import Mathlib.Data.List.Basic

/-! Questions about the past, asked of a log that only grows at its end.

`Since mark cut log` says that a marked entry is in the log and no cut has come after
it; the marked entry may be a cut itself. `Always holds log` checks each entry against
the log before it.
-/

set_option autoImplicit false

namespace SprHomeAssistant.Library.Logs

variable {Entry : Type}

def Since (mark cut : Entry → Prop) (log : List Entry) : Prop :=
  ∃ earlier entry later, log = earlier ++ entry :: later ∧ mark entry ∧ ∀ e ∈ later, ¬ cut e

def Always (holds : List Entry → Entry → Prop) (log : List Entry) : Prop :=
  ∀ earlier entry later, log = earlier ++ entry :: later → holds earlier entry

/-- An entry of a log is its last one or an entry of the log before that. -/
theorem concat_eq_split {log earlier later : List Entry} {last entry : Entry} :
    log ++ [last] = earlier ++ entry :: later ↔
      (later = [] ∧ log = earlier ∧ last = entry) ∨
        ∃ rest, later = rest ++ [last] ∧ log = earlier ++ entry :: rest := by
  constructor
  · intro split
    rcases List.eq_nil_or_concat later with rfl | ⟨rest, final, rfl⟩
    · obtain ⟨same, final⟩ := List.append_inj' split rfl
      exact Or.inl ⟨rfl, same, List.singleton_inj.mp final⟩
    · rw [List.concat_eq_append, ← List.cons_append, ← List.append_assoc] at split
      obtain ⟨same, final⟩ := List.append_inj' split rfl
      exact Or.inr ⟨rest, by simp [List.singleton_inj.mp final], same⟩
  · rintro (⟨rfl, rfl, rfl⟩ | ⟨rest, rfl, rfl⟩)
    · rfl
    · simp

@[simp] theorem not_since_nil (mark cut : Entry → Prop) : ¬ Since mark cut [] := by
  rintro ⟨earlier, entry, later, split, -⟩
  simp at split

@[simp] theorem since_concat {mark cut : Entry → Prop} {log : List Entry} {last : Entry} :
    Since mark cut (log ++ [last]) ↔ mark last ∨ Since mark cut log ∧ ¬ cut last := by
  constructor
  · rintro ⟨earlier, entry, later, split, marked, uncut⟩
    obtain ⟨rfl, rfl, rfl⟩ | ⟨rest, rfl, rfl⟩ := concat_eq_split.mp split
    · exact Or.inl marked
    · have before : ∀ e ∈ rest, ¬ cut e := fun e member => uncut e (List.mem_append_left _ member)
      exact Or.inr ⟨⟨earlier, entry, rest, rfl, marked, before⟩, uncut last (by simp)⟩
  · rintro (marked | ⟨⟨earlier, entry, later, rfl, marked, uncut⟩, final⟩)
    · exact ⟨log, last, [], rfl, marked, by simp⟩
    · refine ⟨earlier, entry, later ++ [last], by simp, marked, fun e member => ?_⟩
      rcases List.mem_append.mp member with member | member
      · exact uncut e member
      · exact List.mem_singleton.mp member ▸ final

@[simp] theorem always_nil (holds : List Entry → Entry → Prop) : Always holds [] := by
  intro earlier entry later split
  simp at split

@[simp] theorem always_concat {holds : List Entry → Entry → Prop} {log : List Entry} {last : Entry} :
    Always holds (log ++ [last]) ↔ Always holds log ∧ holds log last := by
  constructor
  · intro always
    refine ⟨fun earlier entry later split => ?_, always log last [] rfl⟩
    exact always earlier entry (later ++ [last]) (by simp [split])
  · rintro ⟨always, final⟩ earlier entry later split
    obtain ⟨-, rfl, rfl⟩ | ⟨rest, -, rfl⟩ := concat_eq_split.mp split
    · exact final
    · exact always earlier entry rest rfl

theorem always_congr {holds holds' : List Entry → Entry → Prop} {log : List Entry}
    (same : ∀ earlier entry later, log = earlier ++ entry :: later →
      (holds earlier entry ↔ holds' earlier entry)) : Always holds log ↔ Always holds' log := by
  constructor
  · intro always earlier entry later split
    exact (same earlier entry later split).mp (always earlier entry later split)
  · intro always earlier entry later split
    exact (same earlier entry later split).mpr (always earlier entry later split)

end SprHomeAssistant.Library.Logs
