import CommandShell.Redirection
import Mathlib.Data.List.TakeWhile

/-! Operators among the words of a line. A line without operators is a command as it
stands; otherwise the command ends where the first operator stands, every operator needs a
target, and the last one says where a stream goes. -/

namespace CommandShell.Proofs.Operators

def spellings : List String := [">", "1>", ">>", "1>>", "2>", "2>>"]

theorem isWord_iff (word : String) : Operator.isWord word = true ↔ word ∈ spellings := by
  constructor
  · intro spelled
    unfold Operator.isWord Operator.ofWord? at spelled
    split at spelled <;> simp_all [spellings]
  · intro member
    simp only [spellings, List.mem_cons, List.not_mem_nil, or_false] at member
    rcases member with rfl | rfl | rfl | rfl | rfl | rfl <;> rfl

theorem redirections_of_no_operator {words : List String}
    (free : ∀ word ∈ words, word ∉ spellings) : CommandLine.redirections words = .ok [] := by
  induction words with
  | nil => rfl
  | cons word words ih =>
    have none : Operator.ofWord? word = none := by
      have plain := mt (isWord_iff word).mp (free word (by simp))
      simpa [Operator.isWord] using plain
    rw [CommandLine.redirections, none]
    apply ih
    intro later member
    exact free later (List.mem_cons_of_mem word member)

theorem commandWords_eq_self_iff (words : List String) :
    CommandLine.commandWords words = words ↔ ∀ word ∈ words, word ∉ spellings := by
  simp [CommandLine.commandWords, List.takeWhile_eq_self_iff, ← isWord_iff]

/-- A line is a command as it stands just when it holds no operator. -/
theorem ofWords_eq_self_iff (words : List String) :
    CommandLine.ofWords words = .ok ⟨words, none⟩ ↔ ∀ word ∈ words, word ∉ spellings := by
  constructor
  · intro read
    cases found : CommandLine.redirections words with
    | error error => simp [CommandLine.ofWords, found, Except.map] at read
    | ok redirections =>
      simp only [CommandLine.ofWords, found, Except.map, Except.ok.injEq,
        CommandLine.mk.injEq] at read
      exact (commandWords_eq_self_iff words).mp read.1
  · intro free
    rw [CommandLine.ofWords, redirections_of_no_operator free,
      (commandWords_eq_self_iff words).mpr free]
    rfl

/-- Whether an operator has no target in the words after it: there is none, or the next one is an
operator itself. -/
def Untargeted (after : List String) : Prop := ∀ next ∈ after.head?, next ∈ spellings

def Targeted (words : List String) : Prop :=
  ∀ before operator after, words = before ++ operator :: after → operator ∈ spellings →
    ¬Untargeted after

structure FirstUntargeted (words before : List String) (operator : String) (after : List String) :
    Prop where
  divided : words = before ++ operator :: after
  spelled : operator ∈ spellings
  untargeted : Untargeted after
  first : ∀ earlier other between, before = earlier ++ other :: between → other ∈ spellings →
    ¬Untargeted (between ++ operator :: after)

/-- What the last operator asks for, with the word right behind it as the target. -/
structure LastOperator (words : List String) (redirection : Redirection) (operator : String)
    (before after : List String) : Prop where
  divided : words = before ++ operator :: redirection.target :: after
  asked : Operator.ofWord? operator = some ⟨redirection.stream, redirection.mode⟩
  last : ∀ word ∈ redirection.target :: after, word ∉ spellings

/-- What words are to be read as. Words that are not named in a case make no difference to what
they are read as there. -/
inductive Reading (words : List String) : Except ShellError CommandLine → Prop where
  | plain (free : ∀ word ∈ words, word ∉ spellings) : Reading words (.ok ⟨words, none⟩)
  | refused {before after : List String} {operator : String}
      (place : FirstUntargeted words before operator after) :
      Reading words (.error (.redirectionSyntax operator (after.headD "newline")))
  | redirected {command rest before after : List String} {first operator : String}
      {redirection : Redirection} (targeted : Targeted words)
      (divided : words = command ++ first :: rest) (spelled : first ∈ spellings)
      (free : ∀ word ∈ command, word ∉ spellings)
      (place : LastOperator words redirection operator before after) :
      Reading words (.ok ⟨command, some redirection⟩)

theorem spelled_of_ofWord? {word : String} {operator : Operator}
    (known : Operator.ofWord? word = some operator) : word ∈ spellings := by
  rw [← isWord_iff, Operator.isWord, known]
  rfl

theorem not_spelled_of_ofWord? {word : String} (unknown : Operator.ofWord? word = none) :
    word ∉ spellings := by
  rw [← isWord_iff, Operator.isWord, unknown]
  exact Bool.false_ne_true

theorem Targeted.cons {word : String} {words : List String} (targeted : Targeted words)
    (proper : word ∈ spellings → ¬Untargeted words) : Targeted (word :: words) := by
  intro before operator after divided spelled
  cases before with
  | nil =>
    obtain ⟨rfl, rfl⟩ := List.cons.inj divided
    exact proper spelled
  | cons head before => exact targeted before operator after (List.cons.inj divided).2 spelled

theorem FirstUntargeted.cons {word operator : String} {words before after : List String}
    (place : FirstUntargeted words before operator after)
    (proper : word ∈ spellings → ¬Untargeted words) :
    FirstUntargeted (word :: words) (word :: before) operator after where
  divided := congrArg (word :: ·) place.divided
  spelled := place.spelled
  untargeted := place.untargeted
  first := by
    intro earlier other between split spelled
    cases earlier with
    | nil =>
      obtain ⟨rfl, rfl⟩ := List.cons.inj split
      exact place.divided ▸ proper spelled
    | cons head earlier => exact place.first earlier other between (List.cons.inj split).2 spelled

theorem FirstUntargeted.head {operator : String} {after : List String}
    (spelled : operator ∈ spellings) (untargeted : Untargeted after) :
    FirstUntargeted (operator :: after) [] operator after where
  divided := rfl
  spelled := spelled
  untargeted := untargeted
  first := by
    intro earlier other between split
    exact absurd split.symm (by simp)

theorem FirstUntargeted.mem {operator : String} {words before after : List String}
    (place : FirstUntargeted words before operator after) : operator ∈ words := by
  rw [place.divided]
  exact List.mem_append_right before List.mem_cons_self

theorem LastOperator.mem {operator : String} {words before after : List String}
    {redirection : Redirection} (place : LastOperator words redirection operator before after) :
    operator ∈ words := by
  rw [place.divided]
  exact List.mem_append_right before List.mem_cons_self

theorem LastOperator.cons {word operator : String} {words before after : List String}
    {redirection : Redirection} (place : LastOperator words redirection operator before after) :
    LastOperator (word :: words) redirection operator (word :: before) after :=
  ⟨congrArg (word :: ·) place.divided, place.asked, place.last⟩

/-- Reading the redirections stops at the first operator without a target. If there is none, the
last redirection is that of the last operator. -/
theorem redirections_found (words : List String) :
    (∃ before operator after, FirstUntargeted words before operator after ∧
      CommandLine.redirections words =
        .error (.redirectionSyntax operator (after.headD "newline"))) ∨
    Targeted words ∧ ∃ found, CommandLine.redirections words = .ok found ∧
      (found = [] → ∀ word ∈ words, word ∉ spellings) ∧
      ∀ redirection, found.getLast? = some redirection → ∃ operator before after,
        LastOperator words redirection operator before after := by
  fun_induction CommandLine.redirections words with
  | case1 =>
    refine .inr ⟨?_, [], rfl, by simp, by simp⟩
    intro before operator after divided
    exact absurd divided.symm (by simp)
  | case2 word rest unknown ih =>
    have plain := not_spelled_of_ofWord? unknown
    have proper : word ∈ spellings → ¬Untargeted rest := fun spelled => absurd spelled plain
    obtain ⟨before, operator, after, place, refused⟩ | ⟨targeted, found, read, free, last⟩ := ih
    · exact .inl ⟨word :: before, operator, after, place.cons proper, refused⟩
    · refine .inr ⟨targeted.cons proper, found, read, ?_, ?_⟩
      · intro empty
        exact List.forall_mem_cons.mpr ⟨plain, free empty⟩
      · intro redirection ends
        obtain ⟨operator, before, after, place⟩ := last redirection ends
        exact ⟨operator, word :: before, after, place.cons⟩
  | case3 word operator known =>
    refine .inl ⟨[], word, [], .head (spelled_of_ofWord? known) ?_, rfl⟩
    simp [Untargeted]
  | case4 word operator known target later isOperator =>
    refine .inl ⟨[], word, target :: later, .head (spelled_of_ofWord? known) ?_, rfl⟩
    simpa [Untargeted] using (isWord_iff target).mp isOperator
  | case5 word operator known target later isPlain ih =>
    have plain : target ∉ spellings := mt (isWord_iff target).mpr isPlain
    have skipped : target ∈ spellings → ¬Untargeted later := fun spelled => absurd spelled plain
    have proper : word ∈ spellings → ¬Untargeted (target :: later) := by
      intro _ untargeted
      exact plain (untargeted target rfl)
    obtain ⟨before, other, after, place, refused⟩ | ⟨targeted, found, read, free, last⟩ := ih
    · refine .inl ⟨word :: target :: before, other, after, (place.cons skipped).cons proper, ?_⟩
      rw [refused]
      rfl
    · refine .inr ⟨(targeted.cons skipped).cons proper,
        ⟨operator.stream, operator.mode, target⟩ :: found, ?_, by simp, ?_⟩
      · rw [read]
        rfl
      · intro redirection ends
        cases found with
        | nil =>
          obtain rfl := Option.some.inj ends
          exact ⟨word, [], later, rfl, known, List.forall_mem_cons.mpr ⟨plain, free rfl⟩⟩
        | cons next found =>
          rw [List.getLast?_cons_cons] at ends
          obtain ⟨other, before, after, place⟩ := last redirection ends
          exact ⟨other, word :: target :: before, after, place.cons.cons⟩

/-- The command goes up to the first operator. -/
theorem commandWords_of_first {words command rest : List String} {first : String}
    (divided : words = command ++ first :: rest) (spelled : first ∈ spellings)
    (free : ∀ word ∈ command, word ∉ spellings) : CommandLine.commandWords words = command := by
  have isOperator := (isWord_iff first).mpr spelled
  rw [divided, CommandLine.commandWords, List.takeWhile_append_of_pos, List.takeWhile_cons_of_neg,
    List.append_nil]
  · simp [isOperator]
  · intro word member
    simpa using mt (isWord_iff word).mp (free word member)

theorem exists_first_operator {words : List String} (operators : ∃ word ∈ words, word ∈ spellings) :
    ∃ command first rest, words = command ++ first :: rest ∧ first ∈ spellings ∧
      ∀ word ∈ command, word ∉ spellings := by
  obtain ⟨word, member, spelled⟩ := operators
  have some_ : (words.find? Operator.isWord).isSome := by
    rw [List.find?_isSome]
    exact ⟨word, member, (isWord_iff word).mpr spelled⟩
  obtain ⟨first, found⟩ := Option.isSome_iff_exists.mp some_
  obtain ⟨isOperator, command, rest, divided, free⟩ := List.find?_eq_some_iff_append.mp found
  refine ⟨command, first, rest, divided, (isWord_iff first).mp isOperator, ?_⟩
  intro other before
  rw [← isWord_iff]
  simpa using free other before

theorem ofWords_reading (words : List String) : Reading words (CommandLine.ofWords words) := by
  obtain ⟨before, operator, after, place, refused⟩ | ⟨targeted, found, read, free, last⟩ :=
    redirections_found words
  · rw [CommandLine.ofWords, refused]
    exact .refused place
  · rw [CommandLine.ofWords, read]
    dsimp only [Except.map]
    cases ends : found.getLast? with
    | none =>
      have plain := free (List.getLast?_eq_none_iff.mp ends)
      rw [(commandWords_eq_self_iff words).mpr plain]
      exact .plain plain
    | some redirection =>
      obtain ⟨operator, before, after, place⟩ := last redirection ends
      have operators : ∃ word ∈ words, word ∈ spellings :=
        ⟨operator, place.mem, spelled_of_ofWord? place.asked⟩
      obtain ⟨command, first, rest, divided, spelled, plain⟩ := exists_first_operator operators
      rw [commandWords_of_first divided spelled plain]
      exact .redirected targeted divided spelled plain place

/-- Of two places in a list, one is before the other unless they are the same. -/
theorem places_cases {before after other later : List String} {first second : String}
    (same : before ++ first :: after = other ++ second :: later) :
    (before = other ∧ first = second ∧ after = later) ∨
      (∃ between, other = before ++ first :: between ∧ after = between ++ second :: later) ∨
      ∃ between, before = other ++ second :: between ∧ later = between ++ first :: after := by
  rcases List.append_eq_append_iff.mp same with ⟨gap, rfl, rest⟩ | ⟨gap, rfl, rest⟩
  · cases gap with
    | nil =>
      obtain ⟨rfl, rfl⟩ := List.cons.inj rest
      exact .inl ⟨(List.append_nil _).symm, rfl, rfl⟩
    | cons head gap =>
      obtain ⟨rfl, rfl⟩ := List.cons.inj rest
      exact .inr (.inl ⟨gap, rfl, rfl⟩)
  · cases gap with
    | nil =>
      obtain ⟨rfl, rfl⟩ := List.cons.inj rest
      exact .inl ⟨List.append_nil _, rfl, rfl⟩
    | cons head gap =>
      obtain ⟨rfl, rfl⟩ := List.cons.inj rest
      exact .inr (.inr ⟨gap, rfl, rfl⟩)

section Unique

variable {words before other after later : List String} {operator second : String}
  {redirection another : Redirection}

theorem FirstUntargeted.unique (place : FirstUntargeted words before operator after)
    (also : FirstUntargeted words other second later) : operator = second ∧ after = later := by
  rcases places_cases (place.divided.symm.trans also.divided) with
    ⟨-, same, rest⟩ | ⟨between, sooner, rest⟩ | ⟨between, sooner, rest⟩
  · exact ⟨same, rest⟩
  · exact absurd (rest ▸ place.untargeted) (also.first _ _ _ sooner place.spelled)
  · exact absurd (rest ▸ also.untargeted) (place.first _ _ _ sooner also.spelled)

theorem LastOperator.unique (place : LastOperator words redirection operator before after)
    (also : LastOperator words another second other later) : redirection = another := by
  rcases places_cases (place.divided.symm.trans also.divided) with
    ⟨-, rfl, rest⟩ | ⟨between, sooner, rest⟩ | ⟨between, sooner, rest⟩
  · obtain ⟨target, -⟩ := List.cons.inj rest
    have asked := place.asked.symm.trans also.asked
    obtain ⟨stream, mode, name⟩ := redirection
    cases asked
    cases target
    rfl
  · exact absurd (spelled_of_ofWord? also.asked) (place.last second (by simp [rest]))
  · exact absurd (spelled_of_ofWord? place.asked) (also.last operator (by simp [rest]))

theorem Reading.unique {first second : Except ShellError CommandLine}
    (reading : Reading words first) (also : Reading words second) : first = second := by
  cases reading with
  | plain free =>
    cases also with
    | plain => rfl
    | refused place => exact absurd place.spelled (free _ place.mem)
    | redirected _ _ _ _ place => exact absurd (spelled_of_ofWord? place.asked) (free _ place.mem)
  | refused place =>
    cases also with
    | plain free => exact absurd place.spelled (free _ place.mem)
    | refused same =>
      obtain ⟨rfl, rfl⟩ := place.unique same
      rfl
    | redirected targeted =>
      exact absurd place.untargeted (targeted _ _ _ place.divided place.spelled)
  | redirected targeted divided spelled free place =>
    cases also with
    | plain plain => exact absurd (spelled_of_ofWord? place.asked) (plain _ place.mem)
    | refused other => exact absurd other.untargeted (targeted _ _ _ other.divided other.spelled)
    | redirected _ division isOperator plain same =>
      rw [place.unique same, ← commandWords_of_first divided spelled free,
        commandWords_of_first division isOperator plain]

end Unique

/-- Words are read in just one way: an operator without a target refuses them, the command goes up
to the first operator, and only the last operator and its target say where a stream goes. -/
theorem ofWords_eq_iff (words : List String) (result : Except ShellError CommandLine) :
    CommandLine.ofWords words = result ↔ Reading words result := by
  constructor
  · rintro rfl
    exact ofWords_reading words
  · exact (ofWords_reading words).unique

end CommandShell.Proofs.Operators
