import CommandShell.Proofs.LineText

/-! What reading a line keeps of it. Only separators, quotes and backslashes are ever left out: the
rest of the line is in its words, whole and in order, however the line ends. -/

namespace CommandShell

open scoped List

namespace Words

def unmarked (chars : List Char) : List Char :=
  chars.filter (· ∉ [' ', '\t', '\'', '"', '\\'])

theorem unmarked_append (first second : List Char) :
    unmarked (first ++ second) = unmarked first ++ unmarked second := List.filter_append ..

/-- What is held back is a backslash, if there is anything. -/
theorem unmarked_heldBack (context : QuoteContext) : unmarked (heldBack context) = [] := by
  cases context <;> rfl

theorem unmarked_step (context : QuoteContext) (char : Char) :
    unmarked ((step context char).1.flatMap Symbol.text) = unmarked [char] := by
  cases context with
  | escaped => rfl
  | escapedInDouble =>
    simp only [step]
    split
    · rfl
    · exact unmarked_append ['\\'] [char]
  | single =>
    simp only [step]
    split
    · next quote => simp [unmarked, quote]
    · rfl
  | double =>
    simp only [step]
    split
    · next quote => simp [unmarked, quote]
    split
    · next backslash => simp [unmarked, backslash]
    · rfl
  | plain =>
    simp only [step]
    split
    · next backslash => simp [unmarked, backslash]
    split
    · next quote => simp [unmarked, quote]
    split
    · next quote => simp [unmarked, quote]
    split
    · next blank =>
      have separator : char = ' ' ∨ char = '\t' := by simpa [isSeparator] using blank
      rcases separator with rfl | rfl <;> rfl
    · rfl

theorem unmarked_scan (context : QuoteContext) (line : List Char) :
    unmarked ((scan context line).1.flatMap Symbol.text) = unmarked line := by
  induction line generalizing context with
  | nil => rfl
  | cons char rest ih =>
    have whole := unmarked_append [char] rest
    rw [List.singleton_append] at whole
    simp only [scan, List.flatMap_append, unmarked_append, unmarked_step, ih, whole]

theorem nil_not_mem_prepend {words : List (List Char)} (filled : [] ∉ words) (run : List Char) :
    [] ∉ prepend run words := by
  cases run with
  | nil => exact filled
  | cons char run => simpa [prepend] using filled

theorem nil_not_mem_group (symbols : List Symbol) : [] ∉ group symbols := by
  have later : [] ∉ (runs symbols).2 := by
    induction symbols with
    | nil => exact List.not_mem_nil
    | cons symbol rest ih =>
      cases symbol with
      | char char => exact ih
      | gap => exact nil_not_mem_prepend ih _
  exact nil_not_mem_prepend later _

theorem unmarked_of_split {mode : QuoteMode} {line : List Char} {words : List (List Char)}
    (read : split mode line = .ok words) : unmarked words.flatten = unmarked line := by
  rw [flatten_of_split read, unmarked_append, unmarked_scan, unmarked_heldBack, List.append_nil]

theorem open_of_refused {mode : QuoteMode} {line : List Char} {mark : QuoteMark}
    (refused : split mode line = .error mark) : mode = .strict ∧ openMark line = some mark := by
  unfold split at refused
  unfold openMark
  generalize scan .plain line = answer at refused ⊢
  obtain ⟨symbols, last⟩ := answer
  dsimp only at refused ⊢
  split at refused
  · next unclosed =>
    cases refused
    exact ⟨rfl, unclosed⟩
  · cases refused

end Words

structure Keeps (line : String) (words : List String) : Prop where
  filled : "" ∉ words
  ordered : (String.join words).toList <+ line.toList
  whole : Words.unmarked (String.join words).toList = Words.unmarked line.toList

theorem keeps_of_tokenize {line : String} {mode : QuoteMode} {words : List String}
    (read : tokenize line mode = .ok words) : Keeps line words where
  filled := by
    intro empty
    have member : [] ∈ words.map String.toList := List.mem_map_of_mem empty
    rw [Words.eq_group_of_split (split_of_tokenize read)] at member
    exact Words.nil_not_mem_group _ member
  ordered := by
    rw [String.toList_join]
    exact tokenize_sublist read
  whole := by
    rw [String.toList_join]
    exact Words.unmarked_of_split (split_of_tokenize read)

/-- Reading a line invents nothing, and it neither reorders nor drops any text: whatever the policy
about open quotes is, the words of a line are not empty, their characters are characters of the line
in its order, and all characters of the line but separators, quotes and backslashes are in them. Only
strict quoting refuses a line, and only for a mark that the line leaves open. -/
theorem tokenize_keeps (line : String) (mode : QuoteMode) :
    match tokenize line mode with
    | .ok words => Keeps line words
    | .error error => mode = .strict ∧
        ∃ mark, error = .unterminatedQuote mark.text ∧ Words.openMark line.toList = some mark := by
  cases read : tokenize line mode with
  | ok words => exact keeps_of_tokenize read
  | error error =>
    unfold tokenize at read
    split at read
    · cases read
    · next mark refused =>
      obtain ⟨strict, unclosed⟩ := Words.open_of_refused refused
      exact ⟨strict, mark, (Except.error.inj read).symm, unclosed⟩

/-- A backslash that the end of the line leaves undecided between double quotes is kept. -/
example : tokenize "a \"b\\" .permissive = .ok ["a", "b\\"] := rfl

end CommandShell
