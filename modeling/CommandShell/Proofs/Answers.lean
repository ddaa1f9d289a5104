import CommandShell.Fault

/-! Answers that are values or faults. Two of them may be compared, aside from what values count as
the same, and the faults of one may be told beforehand. An answer that is made up of others comes to
a value where all of them do, and to the first fault else. -/

namespace CommandShell

/-- Whether two answers are refusals for one cause, or values that are alike. -/
inductive Answers {ε α : Type} (alike : α → α → Prop) : Except ε α → Except ε α → Prop where
  | ok {first second : α} (holds : alike first second) : Answers alike (.ok first) (.ok second)
  | error (cause : ε) : Answers alike (.error cause) (.error cause)

section Answering

variable {ε α β : Type} {alike : α → α → Prop} {first second : Except ε α}

theorem Answers.of_ok {value : α} (answers : Answers alike (.ok value) second) :
    ∃ other, second = .ok other ∧ alike value other := by
  cases answers with
  | ok holds => exact ⟨_, rfl, holds⟩

theorem Answers.of_error {cause : ε} (answers : Answers alike (.error cause) second) :
    second = .error cause := by
  cases answers
  rfl

theorem Answers.mono {other : α → α → Prop} (answers : Answers alike first second)
    (weaker : ∀ one another, alike one another → other one another) :
    Answers other first second := by
  cases answers with
  | ok holds => exact .ok (weaker _ _ holds)
  | error cause => exact .error cause

theorem Answers.of_eq (answer : Except ε α) : Answers (· = ·) answer answer := by
  cases answer with
  | ok value => exact .ok rfl
  | error cause => exact .error cause

theorem Answers.map {other : β → β → Prop} (answers : Answers alike first second) (f g : α → β)
    (mapped : ∀ one another, alike one another → other (f one) (g another)) :
    Answers other (first.map f) (second.map g) := by
  cases answers with
  | ok holds => exact .ok (mapped _ _ holds)
  | error cause => exact .error cause

end Answering

section Binding

variable {ε α β : Type} {answer : Except ε α} {next : α → Except ε β} {fault : ε}

theorem bind_eq_ok {result : β} :
    answer >>= next = .ok result ↔ ∃ value, answer = .ok value ∧ next value = .ok result := by
  cases answer with
  | error fault => simp [bind, Except.bind]
  | ok value => simp [bind, Except.bind]

theorem bind_eq_error :
    answer >>= next = .error fault ↔
      answer = .error fault ∨ ∃ value, answer = .ok value ∧ next value = .error fault := by
  cases answer with
  | error other => simp [bind, Except.bind]
  | ok value => simp [bind, Except.bind]

theorem map_eq_error {f : α → β} : answer.map f = .error fault ↔ answer = .error fault := by
  cases answer <;> simp [Except.map]

end Binding

namespace Fault

def Only {α : Type} (allowed : Fault → Prop) (answer : Except Fault α) : Prop :=
  ∀ fault, answer = .error fault → allowed fault

variable {α β : Type} {allowed further : Fault → Prop}

theorem Only.ok (value : α) : Only allowed (.ok value) := by
  intro fault ended
  cases ended

theorem Only.error {fault : Fault} (holds : allowed fault) :
    Only allowed (.error fault : Except Fault α) := by
  intro other ended
  cases ended
  exact holds

theorem Only.map {answer : Except Fault α} (only : Only allowed answer) (f : α → β) :
    Only allowed (answer.map f) := by
  cases answer with
  | ok value => exact .ok _
  | error fault => exact .error (only fault rfl)

theorem Only.mono {answer : Except Fault α} (only : Only allowed answer)
    (implies : ∀ fault, allowed fault → further fault) : Only further answer := by
  intro fault ended
  exact implies fault (only fault ended)

theorem Only.bind {answer : Except Fault α} {next : α → Except Fault β} (only : Only allowed answer)
    (later : ∀ value, answer = .ok value → Only allowed (next value)) :
    Only allowed (answer >>= next) := by
  cases answer with
  | ok value => exact later value rfl
  | error fault => exact .error (only fault rfl)

end Fault

end CommandShell
