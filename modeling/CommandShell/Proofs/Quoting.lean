import CommandShell.Proofs.LineGrammar
import CommandShell.Proofs.Operators

/-! Writing words so that a line means just them. A word may be written in any mixture of
styles, as long as each style can take its part of the word. Quotes do not hide that a
whole word is an operator. -/

namespace CommandShell.Proofs.Quoting
open LineGrammar

inductive Style where
  | bare
  | single
  | double
  | escaped

namespace Style

def Admits : Style → List Char → Prop
  | bare, content => ∀ char ∈ content, char ∉ [' ', '\t', '\'', '"', '\\']
  | single, content => '\'' ∉ content
  | double, _ | escaped, _ => True

def protect (char : Char) : List Char :=
  if char ∈ ['$', '\x60', '"', '\\', '\n'] then ['\\', char] else [char]

def write : Style → List Char → List Char
  | bare, content => content
  | single, content => '\'' :: (content ++ ['\''])
  | double, content => '"' :: (content.flatMap protect ++ ['"'])
  | escaped, content => content.flatMap fun char => ['\\', char]

end Style

structure QuotedPart where
  style : Style
  content : List Char
  filled : content ≠ []
  admitted : style.Admits content

structure QuotedWord where
  parts : List QuotedPart
  filled : parts ≠ []

namespace QuotedWord

def text (word : QuotedWord) : List Char :=
  word.parts.flatMap fun part => part.style.write part.content

def content (word : QuotedWord) : List Char := word.parts.flatMap QuotedPart.content

theorem content_ne_nil (word : QuotedWord) : word.content ≠ [] := by
  obtain ⟨parts, filled⟩ := word
  cases parts with
  | nil => exact absurd rfl filled
  | cons part parts => simp [content, part.filled]

end QuotedWord

structure Blanks where
  chars : List Char
  blank : ∀ char ∈ chars, char ∈ [' ', '\t']

/-- A line that is written word by word. Each word has blanks in front of it, which only
the first one can do without. -/
structure QuotedLine where
  entries : List (Blanks × QuotedWord)
  apart : ∀ entry ∈ entries.tail, entry.1.chars ≠ []
  trailing : Blanks

namespace QuotedLine

def text (line : QuotedLine) : String :=
  String.ofList
    (line.entries.flatMap (fun entry => entry.1.chars ++ entry.2.text) ++ line.trailing.chars)

def words (line : QuotedLine) : List String :=
  line.entries.map fun entry => String.ofList entry.2.content

end QuotedLine

/-- Each character between double quotes is a part of the span for itself. -/
theorem exists_body (content : List Char) : ∃ body : List DoublePart,
    body.flatMap DoublePart.text = content.flatMap Style.protect ∧
      body.flatMap DoublePart.meaning = content := by
  induction content with
  | nil => exact ⟨[], rfl, rfl⟩
  | cons char content ih =>
    obtain ⟨body, written, meant⟩ := ih
    by_cases listed : char ∈ ['$', '\x60', '"', '\\', '\n']
    · refine ⟨.escaped char :: body, ?_, ?_⟩
      · simp only [List.flatMap_cons, written, DoublePart.text, Style.protect, listed, if_true]
      · simp only [List.flatMap_cons, meant, DoublePart.meaning, listed, if_true,
          List.singleton_append]
    · have ordinary : char ≠ '"' ∧ char ≠ '\\' := by simp_all
      refine ⟨.plain char ordinary :: body, ?_, ?_⟩
      · simp only [List.flatMap_cons, written, DoublePart.text, Style.protect, listed, if_false]
      · simp only [List.flatMap_cons, meant, DoublePart.meaning, List.singleton_append]

/-- Whatever is written in a style consists of pieces that mean the text. -/
theorem exists_pieces (style : Style) (content : List Char) (admitted : style.Admits content) :
    ∃ pieces : List Piece, pieces.flatMap Piece.text = style.write content ∧
      pieces.flatMap Piece.meaning = content := by
  cases style with
  | bare =>
    induction content with
    | nil => exact ⟨[], rfl, rfl⟩
    | cons char content ih =>
      have rest : Style.bare.Admits content := by
        intro later member
        exact admitted later (List.mem_cons_of_mem char member)
      obtain ⟨pieces, written, meant⟩ := ih rest
      refine ⟨.plain char (admitted char List.mem_cons_self) :: pieces, ?_, ?_⟩
      · rw [List.flatMap_cons, written]
        rfl
      · rw [List.flatMap_cons, meant]
        rfl
  | single => exact ⟨[.single content admitted], by simp [Piece.text, Style.write],
      by simp [Piece.meaning]⟩
  | double =>
    obtain ⟨body, written, meant⟩ := exists_body content
    exact ⟨[.double body], by simp [Piece.text, Style.write, written],
      by simp [Piece.meaning, meant]⟩
  | escaped =>
    exact ⟨content.map .escaped, by simp [Style.write, List.flatMap_map, Piece.text],
      by simp [List.flatMap_map, Piece.meaning]⟩

theorem exists_pieces_of_parts (parts : List QuotedPart) : ∃ pieces : List Piece,
    pieces.flatMap Piece.text = parts.flatMap (fun part => part.style.write part.content) ∧
      pieces.flatMap Piece.meaning = parts.flatMap QuotedPart.content := by
  induction parts with
  | nil => exact ⟨[], rfl, rfl⟩
  | cons part parts ih =>
    obtain ⟨first, written, meant⟩ := exists_pieces part.style part.content part.admitted
    obtain ⟨later, laterWritten, laterMeant⟩ := ih
    refine ⟨first ++ later, ?_, ?_⟩
    · rw [List.flatMap_append, written, laterWritten, List.flatMap_cons]
    · rw [List.flatMap_append, meant, laterMeant, List.flatMap_cons]

/-- Blanks in front of a line are separators that mean nothing. -/
theorem exists_after_blanks (blanks : Blanks) (items : List Item) : ∃ separated : List Item,
    text separated = blanks.chars ++ text items ∧ wordsOf separated = wordsOf items := by
  obtain ⟨chars, blank⟩ := blanks
  induction chars with
  | nil => exact ⟨items, rfl, rfl⟩
  | cons char chars ih =>
    have rest : ∀ later ∈ chars, later ∈ [' ', '\t'] := by
      intro later member
      exact blank later (List.mem_cons_of_mem char member)
    obtain ⟨separated, written, meant⟩ := ih rest
    refine ⟨.separator char (blank char List.mem_cons_self) :: separated, ?_, ?_⟩
    · rw [text, List.flatMap_cons, ← text, written]
      rfl
    · rw [wordsOf_separator, meant]

theorem exists_of_blanks (blanks : Blanks) : ∃ separated : List Item,
    text separated = blanks.chars ∧ wordsOf separated = [] := by
  obtain ⟨separated, written, meant⟩ := exists_after_blanks blanks []
  exact ⟨separated, by simpa [text] using written, meant⟩

theorem text_word (pieces : List Piece) (items : List Item) :
    text (pieces.map .piece ++ items) = pieces.flatMap Piece.text ++ text items := by
  rw [text, List.flatMap_append, List.flatMap_map]
  rfl

/-- Only a separator is written with a blank at its start. -/
theorem separator_of_blank {item : Item} {items : List Item}
    (blank : ∀ char ∈ (text (item :: items)).head?, char ∈ [' ', '\t']) :
    ∃ char isBlank, item = .separator char isBlank := by
  cases item with
  | separator char isBlank => exact ⟨char, isBlank, rfl⟩
  | piece content =>
    exfalso
    cases content with
    | plain char ordinary =>
      exact ordinary (List.mem_append_left ['\'', '"', '\\'] (blank char rfl))
    | escaped char => simpa using blank '\\' rfl
    | single content unquoted => simpa using blank '\'' rfl
    | double body => simpa using blank '"' rfl

theorem wordsOf_word {pieces : List Piece} (filled : pieces.flatMap Piece.meaning ≠ [])
    {items : List Item} (blank : ∀ char ∈ (text items).head?, char ∈ [' ', '\t']) :
    wordsOf (pieces.map .piece ++ items) = pieces.flatMap Piece.meaning :: wordsOf items := by
  cases items with
  | nil => rw [List.append_nil, wordsOf_pieces filled]; rfl
  | cons item items =>
    obtain ⟨char, isBlank, rfl⟩ := separator_of_blank blank
    rw [wordsOf_pieces_separator filled, wordsOf_separator]

theorem Blanks.head_blank (blanks : Blanks) (rest : List Char) (filled : blanks.chars ≠ []) :
    ∀ char ∈ (blanks.chars ++ rest).head?, char ∈ [' ', '\t'] := by
  obtain ⟨chars, blank⟩ := blanks
  cases chars with
  | nil => exact absurd rfl filled
  | cons first chars =>
    intro char member
    obtain rfl := Option.mem_some_iff.mp member
    exact blank _ List.mem_cons_self

/-- The items of the words from one on. The blanks in front of the next word, or the end of
the line, keep the word apart from what follows. -/
theorem exists_items (entries : List (Blanks × QuotedWord)) (trailing : Blanks)
    (apart : ∀ entry ∈ entries.tail, entry.1.chars ≠ []) : ∃ items : List Item,
    text items = entries.flatMap (fun entry => entry.1.chars ++ entry.2.text) ++ trailing.chars ∧
      wordsOf items = entries.map fun entry => entry.2.content := by
  induction entries with
  | nil => exact exists_of_blanks trailing
  | cons entry entries ih =>
    have laterApart : ∀ next ∈ entries.tail, next.1.chars ≠ [] := by
      intro next member
      exact apart next (List.mem_of_mem_tail member)
    obtain ⟨later, laterWritten, laterMeant⟩ := ih laterApart
    obtain ⟨pieces, written, meant⟩ := exists_pieces_of_parts entry.2.parts
    have filled : pieces.flatMap Piece.meaning ≠ [] := by
      rw [meant]
      exact entry.2.content_ne_nil
    have blank : ∀ char ∈ (text later).head?, char ∈ [' ', '\t'] := by
      rw [laterWritten]
      cases entries with
      | nil =>
        intro char member
        exact trailing.blank char (List.mem_of_mem_head? member)
      | cons next entries =>
        rw [List.flatMap_cons, List.append_assoc, List.append_assoc]
        exact next.1.head_blank _ (apart next List.mem_cons_self)
    obtain ⟨items, itemsWritten, itemsMeant⟩ :=
      exists_after_blanks entry.1 (pieces.map .piece ++ later)
    refine ⟨items, ?_, ?_⟩
    · rw [itemsWritten, text_word, written, laterWritten, List.flatMap_cons]
      simp [QuotedWord.text]
    · rw [itemsMeant, wordsOf_word filled blank, meant, laterMeant]
      rfl

theorem exists_derivation (line : QuotedLine) :
    ∃ items, Derives line.text items ∧ meaning items = line.words := by
  obtain ⟨items, written, meant⟩ := exists_items line.entries line.trailing line.apart
  refine ⟨items, ?_, ?_⟩
  · rw [Derives, written, QuotedLine.text, String.toList_ofList]
  · rw [meaning, meant, QuotedLine.words, List.map_map]
    rfl

/-- Every list of words that are not empty can be written, for any character can be
escaped. -/
theorem exists_line (words : List String) (filled : ∀ word ∈ words, word ≠ "") :
    ∃ line : QuotedLine, line.words = words := by
  have space : Blanks := ⟨[' '], by simp⟩
  suffices written : ∃ entries : List (Blanks × QuotedWord),
      (∀ entry ∈ entries, entry.1.chars ≠ []) ∧
        entries.map (fun entry => String.ofList entry.2.content) = words by
    obtain ⟨entries, apart, same⟩ := written
    have tailApart : ∀ entry ∈ entries.tail, entry.1.chars ≠ [] := by
      intro entry member
      exact apart entry (List.mem_of_mem_tail member)
    exact ⟨⟨entries, tailApart, space⟩, same⟩
  induction words with
  | nil => exact ⟨[], by simp, rfl⟩
  | cons word words ih =>
    have laterFilled : ∀ later ∈ words, later ≠ "" := by
      intro later member
      exact filled later (List.mem_cons_of_mem word member)
    obtain ⟨entries, apart, same⟩ := ih laterFilled
    have content : word.toList ≠ [] := by simpa using filled word List.mem_cons_self
    let part : QuotedPart := ⟨.escaped, word.toList, content, trivial⟩
    refine ⟨(⟨[' '], by simp⟩, ⟨[part], by simp⟩) :: entries, ?_, ?_⟩
    · simpa using apart
    · rw [List.map_cons, same]
      simp [QuotedWord.content, part]

/-- However words are written into a line, both policies about open quotes read just those
words from it. They are then the whole command, unless one of them is an operator: quotes
around an operator do not make it an argument. -/
theorem tokenize_text (line : QuotedLine) (mode : QuoteMode) :
    tokenize line.text mode = .ok line.words ∧
      (tokenize line.text mode >>= CommandLine.ofWords = .ok ⟨line.words, none⟩ ↔
        ∀ word ∈ line.words, word ∉ [">", "1>", ">>", "1>>", "2>", "2>>"]) := by
  obtain ⟨items, derives, meant⟩ := exists_derivation line
  have read : tokenize line.text mode = .ok line.words := by
    rw [tokenize_of_derives derives, meant]
  refine ⟨read, ?_⟩
  rw [read]
  exact Operators.ofWords_eq_self_iff line.words

end CommandShell.Proofs.Quoting
