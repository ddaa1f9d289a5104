import CommandShell.Words
import Mathlib.Data.List.Basic

/-! Where the characters of words come from. Reading a line leaves some of its characters out
and adds none, so words hold nothing but characters of the line, in their order. -/

namespace CommandShell

open scoped List

namespace Words

def Symbol.text : Symbol → List Char
  | .char read => [read]
  | .gap => []

def heldBack (context : QuoteContext) : List Char := (closing context).flatMap Symbol.text

theorem step_sublist (context : QuoteContext) (char : Char) :
    (step context char).1.flatMap Symbol.text ++ heldBack (step context char).2 <+
      heldBack context ++ [char] := by
  cases context with
  | escaped => simp [step, heldBack, closing, Symbol.text]
  | escapedInDouble =>
    simp only [step]
    split <;> simp [heldBack, closing, Symbol.text]
  | single =>
    simp only [step]
    split <;> simp [heldBack, closing, Symbol.text]
  | double =>
    simp only [step]
    split
    · simp [heldBack, closing]
    split
    · next same => simp [heldBack, closing, Symbol.text, same]
    · simp [heldBack, closing, Symbol.text]
  | plain =>
    simp only [step]
    repeat' split
    all_goals simp [heldBack, closing, Symbol.text]

theorem scan_sublist (context : QuoteContext) (line : List Char) :
    (scan context line).1.flatMap Symbol.text ++ heldBack (scan context line).2 <+
      heldBack context ++ line := by
  induction line generalizing context with
  | nil => simp [scan]
  | cons char rest ih =>
    have first := step_sublist context char
    simp only [scan]
    generalize step context char = read at first ⊢
    obtain ⟨symbols, next⟩ := read
    have later := (ih next).append_left (symbols.flatMap Symbol.text)
    have whole := first.append_right rest
    simp only [List.append_assoc, List.flatMap_append, List.singleton_append] at later whole ⊢
    exact later.trans whole

/-- A mark, or a separator, is itself left out where nothing is open. -/
theorem scan_mark_sublist {char : Char} (mark : char ∈ [' ', '\t', '\'', '"', '\\'])
    (rest : List Char) :
    (scan .plain (char :: rest)).1.flatMap Symbol.text ++
      heldBack (scan .plain (char :: rest)).2 <+ rest := by
  have silent : (step .plain char).1.flatMap Symbol.text = [] ∧
      heldBack (step .plain char).2 = [] := by
    simp only [List.mem_cons, List.not_mem_nil, or_false] at mark
    rcases mark with rfl | rfl | rfl | rfl | rfl <;> exact ⟨rfl, rfl⟩
  have later := scan_sublist (step .plain char).2 rest
  rw [silent.2] at later
  simpa only [scan, List.flatMap_append, silent.1, List.nil_append] using later

/-- Whether characters stand for themselves in a line. -/
def Ordinary (chars : List Char) : Prop := ∀ char ∈ chars, char ∉ [' ', '\t', '\'', '"', '\\']

theorem exists_first_mark {chars : List Char} (marked : ¬Ordinary chars) :
    ∃ before mark after, chars = before ++ mark :: after ∧ Ordinary before ∧
      mark ∈ [' ', '\t', '\'', '"', '\\'] := by
  induction chars with
  | nil => exact absurd (by simp [Ordinary]) marked
  | cons char chars ih =>
    by_cases mark : char ∈ [' ', '\t', '\'', '"', '\\']
    · exact ⟨[], char, chars, rfl, by simp [Ordinary], mark⟩
    · have later : ¬Ordinary chars :=
        fun ordinary => marked (List.forall_mem_cons.mpr ⟨mark, ordinary⟩)
      obtain ⟨before, first, after, rfl, ordinary, isMark⟩ := ih later
      exact ⟨char :: before, first, after, rfl, List.forall_mem_cons.mpr ⟨mark, ordinary⟩, isMark⟩

theorem scan_ordinary {content : List Char} (ordinary : Ordinary content) :
    scan .plain content = (content.map .char, .plain) := by
  induction content with
  | nil => rfl
  | cons char content ih =>
    obtain ⟨first, later⟩ := List.forall_mem_cons.mp ordinary
    simp only [List.mem_cons, List.not_mem_nil, or_false, not_or] at first
    simp [scan, step, isSeparator, first, ih later]

theorem scan_separators {blanks : List Char} (separate : ∀ char ∈ blanks, char ∈ [' ', '\t']) :
    scan .plain blanks = (List.replicate blanks.length .gap, .plain) := by
  induction blanks with
  | nil => rfl
  | cons char blanks ih =>
    obtain ⟨first, later⟩ := List.forall_mem_cons.mp separate
    simp only [List.mem_cons, List.not_mem_nil, or_false] at first
    rcases first with rfl | rfl <;>
      simp [scan, step, isSeparator, ih later, List.replicate_succ]

theorem flatten_prepend (run : List Char) (words : List (List Char)) :
    (prepend run words).flatten = run ++ words.flatten := by
  unfold prepend
  cases run <;> rfl

theorem flatten_group (symbols : List Symbol) :
    (group symbols).flatten = symbols.flatMap Symbol.text := by
  have gathered : (runs symbols).1 ++ (runs symbols).2.flatten = symbols.flatMap Symbol.text := by
    induction symbols with
    | nil => rfl
    | cons symbol rest ih =>
      rw [List.flatMap_cons, ← ih]
      cases symbol with
      | char char => rfl
      | gap => simp [runs, flatten_prepend, Symbol.text]
  rw [group, flatten_prepend, gathered]

theorem eq_group_of_split {mode : QuoteMode} {line : List Char} {words : List (List Char)}
    (read : split mode line = .ok words) :
    words = group ((scan .plain line).1 ++ closing (scan .plain line).2) := by
  unfold split at read
  generalize scan .plain line = answer at read ⊢
  obtain ⟨symbols, last⟩ := answer
  dsimp only at read
  split at read
  · cases read
  · exact (Except.ok.inj read).symm

/-- Words hold just what has been read, and what is held back at the end of the line. -/
theorem flatten_of_split {mode : QuoteMode} {line : List Char} {words : List (List Char)}
    (read : split mode line = .ok words) :
    words.flatten =
      (scan .plain line).1.flatMap Symbol.text ++ heldBack (scan .plain line).2 := by
  rw [eq_group_of_split read, flatten_group, List.flatMap_append]
  rfl

theorem split_sublist {mode : QuoteMode} {line : List Char} {words : List (List Char)}
    (read : split mode line = .ok words) : words.flatten <+ line := by
  rw [flatten_of_split read]
  exact scan_sublist .plain line

end Words

theorem split_of_tokenize {line : String} {mode : QuoteMode} {words : List String}
    (read : tokenize line mode = .ok words) :
    Words.split mode line.toList = .ok (words.map String.toList) := by
  unfold tokenize at read
  split at read
  · next words divided =>
    cases read
    simp [divided]
  · cases read

theorem tokenize_sublist {line : String} {mode : QuoteMode} {words : List String}
    (read : tokenize line mode = .ok words) : words.flatMap String.toList <+ line.toList :=
  Words.split_sublist (split_of_tokenize read)

/-- A word of a line is made of characters of the line. -/
theorem word_sublist {line word : String} {mode : QuoteMode} {words : List String}
    (read : tokenize line mode = .ok words) (member : word ∈ words) : word.toList <+ line.toList :=
  (List.sublist_flatten_of_mem (List.mem_map_of_mem member)).trans (tokenize_sublist read)

end CommandShell
