import CommandShell.Proofs.LineGrammar
import CommandShell.Proofs.LineText
import CommandShell.Proofs.Proposals

/-! Which word of a line is completed. A call is passed over where something other than blanks
stands before the word, whatever the words of the line are. As only some blanks separate words, a
word may consist of the others, and then the word after it is taken for the first one. -/

namespace CommandShell

namespace Words

theorem group_gaps (count : Nat) : group (List.replicate count .gap) = [] := by
  have none : runs (List.replicate count .gap) = ([], []) := by
    induction count with
    | zero => rfl
    | succ count ih => rw [List.replicate_succ, runs, ih]; rfl
  rw [group, none]
  rfl

theorem split_separators {blanks : List Char} (separate : ∀ char ∈ blanks, char ∈ [' ', '\t'])
    (mode : QuoteMode) : split mode blanks = .ok [] := by
  have read := scan_separators separate
  cases mode <;>
    simp [split, read, closing, group_gaps, Proofs.LineGrammar.openMark_eq_none.mpr]

end Words

namespace Completer

variable {line : String} {position : Int} {words : List String}

/-- Whether only blanks stand before a position, and not all of them separate words. -/
structure BlankWords (line : String) (position : Int) : Prop where
  blank : ∀ char ∈ before line position, Text.isBlank char = true
  joined : ∃ char ∈ before line position, char ∉ [' ', '\t']

theorem isArgument_eq_false_iff : isArgument line position = false ↔
    ∀ char ∈ before line position, Text.isBlank char = true := by
  simp [isArgument]

/-- A call that is not passed over although there is a word before it has blanks in that word. -/
theorem blankWords_of_command
    (read : tokenize (String.ofList (before line position)) .permissive = .ok words)
    (filled : words ≠ []) (command : isArgument line position = false) :
    BlankWords line position := by
  refine ⟨isArgument_eq_false_iff.mp command, ?_⟩
  by_contra separate
  push Not at separate
  have divided := split_of_tokenize read
  rw [String.toList_ofList, Words.split_separators separate] at divided
  simp [filled] at divided

end Completer

namespace Session

variable {line : String} {position : Int} {words : List String}

/-- A call for the first word is answered alike wherever blanks alone stand before that word. -/
theorem tab_of_command (session : Session) (text : String)
    (command : Completer.isArgument line position = false) :
    session.tab text 0 line position = session.tab text 0 line 0 := by
  have start : Completer.isArgument line 0 = false := by
    simp [Completer.isArgument, Completer.before]
  simp only [tab, propose, command, start]

/-- Where there is a word before the one to complete, a call is passed over: it has no answer, and
leaves all about the session as it was. Only where all that stands before it is blank, with a blank
in it that does not separate words, it is answered as one for the first word. -/
theorem tab_completes_first (session : Session) (text : String)
    (read : tokenize (String.ofList (Completer.before line position)) .permissive = .ok words)
    (filled : words ≠ []) :
    (¬Completer.BlankWords line position →
      session.tab text 0 line position = (.ok none, session)) ∧
    (Completer.BlankWords line position →
      (∀ word ∈ words, ∀ char ∈ word.toList, Text.isBlank char = true) ∧
      session.tab text 0 line position = session.tab text 0 line 0) := by
  constructor
  · intro worded
    apply tab_passed
    rintro ⟨-, command⟩
    exact worded (Completer.blankWords_of_command read filled command)
  · rintro ⟨blank, -⟩
    refine ⟨?_, session.tab_of_command text (Completer.isArgument_eq_false_iff.mpr blank)⟩
    intro word member char inside
    have kept := (word_sublist read member).subset inside
    rw [String.toList_ofList] at kept
    exact blank char kept

/-- The operand of a command is not completed, with the command in quotes. -/
theorem tab_completes_first_quoted :
    tokenize (String.ofList (Completer.before "'cat' ec" (-2))) .permissive = .ok ["cat"] ∧
    ["cat"] ≠ [] ∧ ¬Completer.BlankWords "'cat' ec" (-2) ∧
    ∀ session : Session, session.tab "ec" 0 "'cat' ec" (-2) = (.ok none, session) := by
  have read : tokenize (String.ofList (Completer.before "'cat' ec" (-2))) .permissive =
      .ok ["cat"] := by decide
  have worded : ¬Completer.BlankWords "'cat' ec" (-2) :=
    fun blanks => absurd (blanks.blank '\'' (by decide)) (by decide)
  refine ⟨read, by simp, worded, ?_⟩
  intro session
  exact (session.tab_completes_first "ec" read (by simp)).1 worded

/-- A word that is a no-break space lets the next word be completed like the first one. -/
theorem tab_completes_second :
    let session : Session := { settings := {}, machine := { world := ⟨{ owned := [] }, .root⟩ } }
    tokenize (String.ofList (Completer.before "\u00a0 ec" 2)) .permissive = .ok ["\u00a0"] ∧
    (session.tab "ec" 0 "\u00a0 ec" 2).1 = .ok (some "echo ") := by
  intro session
  refine ⟨by decide, ?_⟩
  have asks : Asks 0 "\u00a0 ec" 2 := ⟨rfl, by decide⟩
  have offered : (session.machine.world.commandNames session.settings.path).2 =
      .ok Builtin.names := rfl
  have only : ∀ word ∈ Builtin.names, "ec".toList <+: word.toList → word ∈ ["echo"] := by decide
  have selected : Completer.candidatesFor (Text.strip "ec") Builtin.names = ["echo"] := by
    refine Completer.candidatesFor_eq (List.pairwise_singleton _ _) ?_
    intro word
    constructor
    · intro member
      obtain rfl := List.mem_singleton.mp member
      decide
    · rintro ⟨member, starts⟩
      exact only word member starts
  rw [tab_answered asks offered, Completer.propose_single _ selected]
  rfl

end Session

end CommandShell
