import CommandShell.Words

/-! The grammar of a line, and what its parts mean. The grammar says nothing about
contexts or about the order in which characters are read. Reading a line in order
accepts just the lines of the grammar and yields their meaning. -/

namespace CommandShell.Proofs.LineGrammar
open Words

inductive DoublePart where
  | plain (char : Char) (ordinary : char ≠ '"' ∧ char ≠ '\\')
  | escaped (char : Char)

namespace DoublePart

def text : DoublePart → List Char
  | plain char _ => [char]
  | escaped char => ['\\', char]

/-- A backslash disappears only in front of a character that it protects. -/
def meaning : DoublePart → List Char
  | plain char _ => [char]
  | escaped char => if char ∈ ['$', '\x60', '"', '\\', '\n'] then [char] else ['\\', char]

end DoublePart

inductive Piece where
  | plain (char : Char) (ordinary : char ∉ [' ', '\t', '\'', '"', '\\'])
  | escaped (char : Char)
  | single (content : List Char) (unquoted : '\'' ∉ content)
  | double (body : List DoublePart)

namespace Piece

def text : Piece → List Char
  | plain char _ => [char]
  | escaped char => ['\\', char]
  | single content _ => '\'' :: (content ++ ['\''])
  | double body => '"' :: (body.flatMap DoublePart.text ++ ['"'])

def meaning : Piece → List Char
  | plain char _ => [char]
  | escaped char => [char]
  | single content _ => content
  | double body => body.flatMap DoublePart.meaning

end Piece

inductive Item where
  | separator (char : Char) (blank : char ∈ [' ', '\t'])
  | piece (content : Piece)

namespace Item

def text : Item → List Char
  | separator char _ => [char]
  | piece content => content.text

def isSeparator : Item → Bool
  | separator _ _ => true
  | piece _ => false

def meaning : Item → List Char
  | separator _ _ => []
  | piece content => content.meaning

end Item

def text (items : List Item) : List Char := items.flatMap Item.text

def Derives (line : String) (items : List Item) : Prop := text items = line.toList

/-- The meanings of the runs of pieces that no separator interrupts. Runs that mean
nothing are no words. -/
def wordsOf (items : List Item) : List (List Char) :=
  ((items.splitOnP Item.isSeparator).map (List.flatMap Item.meaning)).filter (· ≠ [])

def meaning (items : List Item) : List String := (wordsOf items).map String.ofList

theorem scan_append (context : QuoteContext) (first rest : List Char) :
    scan context (first ++ rest) =
      ((scan context first).1 ++ (scan (scan context first).2 rest).1,
        (scan (scan context first).2 rest).2) := by
  induction first generalizing context with
  | nil => rfl
  | cons char first ih => simp only [List.cons_append, scan, ih, List.append_assoc]

theorem scan_append_of {context middle : QuoteContext} {first : List Char}
    {symbols : List Symbol} (read : scan context first = (symbols, middle)) (rest : List Char) :
    scan context (first ++ rest) =
      (symbols ++ (scan middle rest).1, (scan middle rest).2) := by
  rw [scan_append, read]

theorem scan_single (content : List Char) (unquoted : '\'' ∉ content) :
    scan .single content = (content.map .char, .single) := by
  induction content with
  | nil => rfl
  | cons char content ih =>
    obtain ⟨different, later⟩ := not_or.mp (mt List.mem_cons.mpr unquoted)
    simp [scan, step, Ne.symm different, ih later]

theorem isSeparator_iff (char : Char) : isSeparator char = true ↔ char ∈ [' ', '\t'] := by
  simp [isSeparator]

theorem escapesInDouble_iff (char : Char) :
    escapesInDouble char = true ↔ char ∈ ['$', '\x60', '"', '\\', '\n'] := by
  simp [escapesInDouble, or_assoc]

theorem scan_doublePart (part : DoublePart) :
    scan .double part.text = (part.meaning.map .char, .double) := by
  cases part with
  | plain char ordinary => simp [DoublePart.text, DoublePart.meaning, scan, step, ordinary]
  | escaped char =>
    have meaning : (DoublePart.escaped char).meaning =
        if escapesInDouble char then [char] else ['\\', char] := by
      simp only [DoublePart.meaning, escapesInDouble_iff]
    rw [meaning]
    by_cases escapes : escapesInDouble char = true <;>
      simp [DoublePart.text, scan, step, escapes]

theorem scan_double (body : List DoublePart) :
    scan .double (body.flatMap DoublePart.text) =
      ((body.flatMap DoublePart.meaning).map .char, .double) := by
  induction body with
  | nil => rfl
  | cons part body ih =>
    rw [List.flatMap_cons, scan_append_of (scan_doublePart part), ih, List.flatMap_cons,
      List.map_append]

theorem scan_piece (piece : Piece) :
    scan .plain piece.text = (piece.meaning.map .char, .plain) := by
  cases piece with
  | plain char ordinary =>
    simp only [List.mem_cons, List.not_mem_nil, or_false, not_or] at ordinary
    simp [Piece.text, Piece.meaning, scan, step, isSeparator, ordinary]
  | escaped char => rfl
  | single content unquoted =>
    have closed := scan_append_of (scan_single content unquoted) ['\'']
    simp [Piece.text, Piece.meaning, scan, step, closed]
  | double body =>
    have closed := scan_append_of (scan_double body) ['"']
    simp [Piece.text, Piece.meaning, scan, step, closed]

def Item.symbols : Item → List Symbol
  | separator _ _ => [.gap]
  | piece content => content.meaning.map .char

theorem scan_item (item : Item) : scan .plain item.text = (item.symbols, .plain) := by
  cases item with
  | separator char blank =>
    simp only [List.mem_cons, List.not_mem_nil, or_false] at blank
    rcases blank with rfl | rfl <;> rfl
  | piece content => exact scan_piece content

/-- A line of the grammar is read item by item, and leaves nothing open. -/
theorem scan_text (items : List Item) :
    scan .plain (text items) = (items.flatMap Item.symbols, .plain) := by
  induction items with
  | nil => rfl
  | cons item items ih =>
    have first := scan_append_of (scan_item item) (text items)
    rw [ih] at first
    simpa only [text, List.flatMap_cons] using first

/-- How a line goes on from a context when it leaves nothing open. -/
def Closes : QuoteContext → List Char → Prop
  | .plain, line => ∃ items, line = text items
  | .escaped, line => ∃ char items, line = char :: text items
  | .single, line => ∃ (content : List Char) (items : List Item),
      '\'' ∉ content ∧ line = content ++ '\'' :: text items
  | .double, line => ∃ (body : List DoublePart) (items : List Item),
      line = body.flatMap DoublePart.text ++ '"' :: text items
  | .escapedInDouble, line => ∃ (char : Char) (body : List DoublePart) (items : List Item),
      line = char :: (body.flatMap DoublePart.text ++ '"' :: text items)

theorem closes_plain {char : Char} {rest : List Char}
    (closed : Closes (step .plain char).2 rest) : Closes .plain (char :: rest) := by
  by_cases backslash : char = '\\'
  · subst backslash
    obtain ⟨next, items, rfl⟩ := closed
    exact ⟨.piece (.escaped next) :: items, rfl⟩
  by_cases single : char = '\''
  · subst single
    obtain ⟨content, items, unquoted, rfl⟩ := closed
    exact ⟨.piece (.single content unquoted) :: items, by simp [text, Item.text, Piece.text]⟩
  by_cases double : char = '"'
  · subst double
    obtain ⟨body, items, rfl⟩ := closed
    exact ⟨.piece (.double body) :: items, by simp [text, Item.text, Piece.text]⟩
  by_cases blank : char ∈ [' ', '\t']
  · have separates : isSeparator char = true := (isSeparator_iff char).mpr blank
    simp only [step, backslash, single, double, separates, if_true, if_false] at closed
    obtain ⟨items, rfl⟩ := closed
    exact ⟨.separator char blank :: items, rfl⟩
  · have joins : ¬isSeparator char = true := mt (isSeparator_iff char).mp blank
    simp only [step, backslash, single, double, joins, if_false] at closed
    obtain ⟨items, rfl⟩ := closed
    have ordinary : char ∉ [' ', '\t', '\'', '"', '\\'] := by simp_all
    exact ⟨.piece (.plain char ordinary) :: items, rfl⟩

theorem closes_single {char : Char} {rest : List Char}
    (closed : Closes (step .single char).2 rest) : Closes .single (char :: rest) := by
  by_cases quote : char = '\''
  · subst quote
    obtain ⟨items, rfl⟩ := closed
    exact ⟨[], items, List.not_mem_nil, rfl⟩
  · simp only [step, quote, if_false] at closed
    obtain ⟨content, items, unquoted, rfl⟩ := closed
    exact ⟨char :: content, items, by simp [unquoted, Ne.symm quote], rfl⟩

theorem closes_double {char : Char} {rest : List Char}
    (closed : Closes (step .double char).2 rest) : Closes .double (char :: rest) := by
  by_cases quote : char = '"'
  · subst quote
    obtain ⟨items, rfl⟩ := closed
    exact ⟨[], items, rfl⟩
  by_cases backslash : char = '\\'
  · subst backslash
    obtain ⟨next, body, items, rfl⟩ := closed
    exact ⟨.escaped next :: body, items, rfl⟩
  · simp only [step, quote, backslash, if_false] at closed
    obtain ⟨body, items, rfl⟩ := closed
    exact ⟨.plain char ⟨quote, backslash⟩ :: body, items, rfl⟩

/-- What a line is read as is settled from its end: the rest of a line that leaves nothing
open tells what its first character opened. -/
theorem closes_of_scan {context : QuoteContext} {line : List Char}
    (closed : (scan context line).2 = .plain) : Closes context line := by
  induction line generalizing context with
  | nil =>
    subst closed
    exact ⟨[], rfl⟩
  | cons char line ih =>
    have rest := ih closed
    cases context with
    | plain => exact closes_plain rest
    | single => exact closes_single rest
    | double => exact closes_double rest
    | escaped =>
      obtain ⟨items, rfl⟩ := rest
      exact ⟨char, items, rfl⟩
    | escapedInDouble =>
      obtain ⟨body, items, rfl⟩ := rest
      exact ⟨char, body, items, rfl⟩

theorem runs_chars (chars : List Char) (rest : List Symbol) :
    runs (chars.map .char ++ rest) = (chars ++ (runs rest).1, (runs rest).2) := by
  induction chars with
  | nil => rfl
  | cons char chars ih => simp only [List.map_cons, List.cons_append, runs, ih]

theorem prepend_eq_filter (run : List Char) (words : List (List Char)) :
    prepend run words = [run].filter (· ≠ []) ++ words := by
  cases run <;> rfl

/-- Runs of symbols are runs of items: the first one goes on to the first separator, and
the other ones are words unless they mean nothing. -/
theorem runs_symbols (items : List Item) : ∃ first later,
    items.splitOnP Item.isSeparator = first :: later ∧
      runs (items.flatMap Item.symbols) =
        (first.flatMap Item.meaning, (later.map (List.flatMap Item.meaning)).filter (· ≠ [])) := by
  induction items with
  | nil => exact ⟨[], [], rfl, rfl⟩
  | cons item items ih =>
    obtain ⟨first, later, divided, grouped⟩ := ih
    cases item with
    | separator char blank =>
      refine ⟨[], first :: later, ?_, ?_⟩
      · rw [List.splitOnP_cons_eq_if_modifyHead, divided]
        rfl
      · rw [List.flatMap_cons]
        simp only [Item.symbols, List.singleton_append, runs, grouped, prepend_eq_filter,
          List.map_cons, List.flatMap_nil, Prod.mk.injEq, true_and]
        rw [← List.filter_append, List.singleton_append]
    | piece content =>
      refine ⟨.piece content :: first, later, ?_, ?_⟩
      · rw [List.splitOnP_cons_eq_if_modifyHead, divided]
        rfl
      · rw [List.flatMap_cons, List.flatMap_cons]
        simp only [Item.symbols, Item.meaning, runs_chars, grouped]

theorem group_symbols (items : List Item) : group (items.flatMap Item.symbols) = wordsOf items := by
  obtain ⟨first, later, divided, grouped⟩ := runs_symbols items
  simp only [group, grouped, wordsOf, divided, prepend_eq_filter]
  rw [← List.filter_append]
  rfl

theorem wordsOf_separator (char : Char) (blank : char ∈ [' ', '\t']) (items : List Item) :
    wordsOf (.separator char blank :: items) = wordsOf items := by
  rw [wordsOf, List.splitOnP_cons_eq_if_modifyHead]
  rfl

theorem pieces_not_separators (pieces : List Piece) :
    ∀ item ∈ pieces.map Item.piece, item.isSeparator = false := by
  simp [Item.isSeparator]

theorem meaning_pieces (pieces : List Piece) :
    (pieces.map Item.piece).flatMap Item.meaning = pieces.flatMap Piece.meaning := by
  rw [List.flatMap_map]
  rfl

/-- Pieces at the end of a line are its last word. -/
theorem wordsOf_pieces {pieces : List Piece} (filled : pieces.flatMap Piece.meaning ≠ []) :
    wordsOf (pieces.map .piece) = [pieces.flatMap Piece.meaning] := by
  rw [wordsOf, List.splitOnP_eq_singleton (pieces_not_separators pieces)]
  simp [meaning_pieces, filled]

/-- Pieces in front of a separator are a word of their own. -/
theorem wordsOf_pieces_separator {pieces : List Piece}
    (filled : pieces.flatMap Piece.meaning ≠ []) (char : Char) (blank : char ∈ [' ', '\t'])
    (items : List Item) :
    wordsOf (pieces.map .piece ++ .separator char blank :: items) =
      pieces.flatMap Piece.meaning :: wordsOf items := by
  rw [wordsOf, List.splitOnP_append_cons_of_forall_mem (pieces_not_separators pieces) _ rfl,
    List.map_cons, List.filter_cons_of_pos, meaning_pieces]
  · rfl
  · simpa [meaning_pieces] using filled

theorem openMark_eq_none {context : QuoteContext} : context.openMark = none ↔ context = .plain := by
  cases context <;> decide

/-- A line of the grammar means the same whatever the policy about open quotes is. -/
theorem tokenize_of_derives {line : String} {items : List Item} (derives : Derives line items)
    (mode : QuoteMode) : tokenize line mode = .ok (meaning items) := by
  have read := scan_text items
  rw [derives] at read
  have divided : split mode line.toList = .ok (wordsOf items) := by
    cases mode <;> simp [split, read, closing, group_symbols, openMark_eq_none.mpr]
  rw [tokenize, divided]
  rfl

theorem derives_of_plain {line : String} (closed : (scan .plain line.toList).2 = .plain) :
    ∃ items, Derives line items := by
  obtain ⟨items, spelled⟩ := closes_of_scan closed
  exact ⟨items, spelled.symm⟩

theorem tokenize_of_open {line : String} {mark : QuoteMark}
    (unclosed : (scan .plain line.toList).2.openMark = some mark) :
    tokenize line .strict = .error (.unterminatedQuote mark.text) := by
  simp [tokenize, split, unclosed]

/-- Strict quoting accepts just the lines of the grammar and yields what they mean; every
other line is refused for a quote or an escape that it leaves open. Permissive quoting
does the same with the lines of the grammar. -/
theorem tokenize_eq_meaning (line : String) :
    (∀ words, tokenize line .strict = .ok words ↔
      ∃ items, Derives line items ∧ words = meaning items) ∧
    ((∃ mark, tokenize line .strict = .error (.unterminatedQuote mark)) ↔
      ¬∃ items, Derives line items) ∧
    ∀ items, Derives line items → tokenize line .permissive = .ok (meaning items) := by
  refine ⟨?_, ⟨?_, ?_⟩, ?_⟩
  · intro words
    constructor
    · intro accepted
      cases unclosed : (scan .plain line.toList).2.openMark with
      | some mark =>
        rw [tokenize_of_open unclosed] at accepted
        cases accepted
      | none =>
        obtain ⟨items, derives⟩ := derives_of_plain (openMark_eq_none.mp unclosed)
        rw [tokenize_of_derives derives] at accepted
        exact ⟨items, derives, (Except.ok.inj accepted).symm⟩
    · rintro ⟨items, derives, rfl⟩
      exact tokenize_of_derives derives .strict
  · rintro ⟨mark, refused⟩ ⟨items, derives⟩
    rw [tokenize_of_derives derives] at refused
    cases refused
  · intro underivable
    cases unclosed : (scan .plain line.toList).2.openMark with
    | some mark => exact ⟨mark.text, tokenize_of_open unclosed⟩
    | none =>
      have derivable := derives_of_plain (openMark_eq_none.mp unclosed)
      exact absurd derivable underivable
  · intro items derives
    exact tokenize_of_derives derives .permissive

end CommandShell.Proofs.LineGrammar
