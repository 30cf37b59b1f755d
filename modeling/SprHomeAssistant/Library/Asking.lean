/-! Programs that ask the world around them, one query at a time.

What a program does next may depend on every reply so far. Nothing is assumed of the
replies: a program is judged along all of its paths.
-/

set_option autoImplicit false

namespace SprHomeAssistant.Library.Asking

variable {Query : Type} {Reply : Query → Type} {Result Next : Type}

inductive Program (Reply : Query → Type) (Result : Type) where
  | done (result : Result)
  | ask (query : Query) (next : Reply query → Program Reply Result)

def Program.bind : Program Reply Result → (Result → Program Reply Next) → Program Reply Next
  | .done result, next => next result
  | .ask query rest, next => .ask query fun reply => (rest reply).bind next

instance : Monad (Program Reply) where
  pure := .done
  bind := Program.bind

/-- One query of a program, for its reply. -/
def query (asked : Query) : Program Reply (Reply asked) := .ask asked .done

/-- A query and what it was answered. -/
abbrev Exchange (Reply : Query → Type) := (asked : Query) × Reply asked

/-! ## Paths -/

/-- From its start to its result. -/
inductive Path : Program Reply Result → List (Exchange Reply) → Result → Prop where
  | done (result : Result) : Path (.done result) [] result
  | ask {asked : Query} {next : Reply asked → Program Reply Result} (reply : Reply asked)
      {answers : List (Exchange Reply)} {result : Result} (rest : Path (next reply) answers result) :
      Path (.ask asked next) (⟨asked, reply⟩ :: answers) result

/-- From its start to what is left of it. -/
inductive Leaves (program : Program Reply Result) : List (Exchange Reply) → Program Reply Result → Prop where
  | start : Leaves program [] program
  | answered {answers : List (Exchange Reply)} {asked : Query} {next : Reply asked → Program Reply Result}
      (leaves : Leaves program answers (.ask asked next)) (reply : Reply asked) :
      Leaves program (answers ++ [⟨asked, reply⟩]) (next reply)

theorem Leaves.path {program left : Program Reply Result} {answers : List (Exchange Reply)}
    (leaves : Leaves program answers left) {rest : List (Exchange Reply)} {result : Result}
    (path : Path left rest result) : Path program (answers ++ rest) result := by
  induction leaves generalizing rest with
  | start => exact path
  | answered leaves reply ih =>
      have before := ih (.ask reply path)
      rwa [List.append_assoc]

/-- Where nothing is left, the way to it is a whole path. -/
theorem Leaves.finished {program : Program Reply Result} {answers : List (Exchange Reply)} {result : Result}
    (leaves : Leaves program answers (.done result)) : Path program answers result := by
  have path := leaves.path (.done result)
  rwa [List.append_nil] at path

/-- Any replies take a program to some result. -/
theorem exists_path (program : Program Reply Result) (replies : (asked : Query) → Reply asked) :
    ∃ answers result, Path program answers result ∧ ∀ answer ∈ answers, answer.2 = replies answer.1 := by
  induction program with
  | done result => exact ⟨[], result, .done result, List.forall_mem_nil _⟩
  | ask asked next ih =>
      obtain ⟨answers, result, path, replied⟩ := ih (replies asked)
      exact ⟨_, result, .ask (replies asked) path, List.forall_mem_cons.mpr ⟨rfl, replied⟩⟩

/-! ## The parts of a program -/

theorem path_pure {answers : List (Exchange Reply)} {value result : Result}
    (path : Path (pure value : Program Reply Result) answers result) : answers = [] ∧ result = value := by
  cases path
  exact ⟨rfl, rfl⟩

theorem path_bind {program : Program Reply Result} {next : Result → Program Reply Next}
    {answers : List (Exchange Reply)} {result : Next} (path : Path (program >>= next) answers result) :
    ∃ first rest middle, answers = first ++ rest ∧ Path program first middle ∧ Path (next middle) rest result := by
  induction program generalizing answers with
  | done middle => exact ⟨[], answers, middle, rfl, .done middle, path⟩
  | ask asked following ih =>
      cases path with
      | ask reply path =>
          obtain ⟨first, rest, middle, split, before, after⟩ := ih reply path
          exact ⟨⟨asked, reply⟩ :: first, rest, middle, by rw [split]; rfl, .ask reply before, after⟩

theorem path_query {asked : Query} {answers : List (Exchange Reply)} {reply : Reply asked}
    (path : Path (query asked) answers reply) : answers = [⟨asked, reply⟩] := by
  cases path with
  | ask reply path =>
      cases path
      rfl

/-- A query in front of a program. -/
theorem path_ask {asked : Query} {next : Reply asked → Program Reply Next} {answers : List (Exchange Reply)}
    {result : Next} (path : Path (query asked >>= next) answers result) :
    ∃ reply rest, answers = ⟨asked, reply⟩ :: rest ∧ Path (next reply) rest result := by
  obtain ⟨first, rest, reply, rfl, before, after⟩ := path_bind path
  exact ⟨reply, rest, by rw [path_query before]; rfl, after⟩

end SprHomeAssistant.Library.Asking
