import CommandShell.Proofs.LineMending
import CommandShell.Proofs.LineText
import CommandShell.Proofs.Proposals

/-! Reading back a name that completion has filled in. Completion writes the name as it is, with a
space after it, so only a name without marks and separators is read as the word that it is. -/

namespace CommandShell

open scoped List

namespace Words
open Proofs.LineGrammar

structure IsPlain (name : String) : Prop where
  filled : name ≠ ""
  ordinary : Ordinary name.toList

variable {name : List Char} {mode : QuoteMode}

theorem split_ordinary (filled : name ≠ []) (ordinary : Ordinary name) (mode : QuoteMode) :
    split mode (name ++ [' ']) = .ok [name] := by
  have read : scan .plain (name ++ [' ']) = (name.map .char ++ [.gap], .plain) :=
    scan_append_of (scan_ordinary ordinary) [' ']
  have grouped : group (name.map .char ++ [.gap]) = [name] := by
    simp [group, runs_chars, runs, prepend, filled]
  cases mode <;> simp [split, read, closing, grouped, openMark_eq_none.mpr]

/-- What stays the same when its first item is moved to its end as another one consists of that
one only. -/
theorem eq_of_shifted {first last : Char} {middle : List Char}
    (shifted : first :: middle = middle ++ [last]) : ∀ char ∈ first :: middle, char = last := by
  induction middle generalizing first with
  | nil => simpa using shifted
  | cons next middle ih =>
    obtain ⟨rfl, rest⟩ := List.cons.inj shifted
    have later := ih rest
    exact List.forall_mem_cons.mpr ⟨later first List.mem_cons_self, later⟩

/-- A name and the space after it have just one character more than the name. If the first mark of
the name is left out, then all that follows it has to be kept, so that nothing but spaces follows
it; but spaces are not kept. -/
theorem ordinary_of_split (read : split mode (name ++ [' ']) = .ok [name]) : Ordinary name := by
  by_contra marked
  obtain ⟨before, mark, after, rfl, ordinary, isMark⟩ := exists_first_mark marked
  have kept := flatten_of_split read
  rw [List.append_assoc, List.cons_append, scan_append_of (scan_ordinary ordinary)] at kept
  have chars : (before.map Symbol.char).flatMap Symbol.text = before := by
    simp [List.flatMap_map, Symbol.text]
  simp only [List.flatten_cons, List.flatten_nil, List.append_nil, List.flatMap_append, chars,
    List.append_assoc, List.append_cancel_left_eq] at kept
  have within := scan_mark_sublist isMark (after ++ [' '])
  rw [← kept] at within
  have shifted : mark :: after = after ++ [' '] := within.eq_of_length (by simp)
  have spaces := eq_of_shifted shifted
  have separate : ∀ char ∈ mark :: (after ++ [' ']), char ∈ [' ', '\t'] := by
    rw [← shifted]
    have all : ∀ char ∈ mark :: mark :: after, char = ' ' :=
      List.forall_mem_cons.mpr ⟨spaces mark List.mem_cons_self, spaces⟩
    intro char member
    simp [all char member]
  rw [scan_separators separate] at kept
  have silent (count : Nat) : (List.replicate count Symbol.gap).flatMap Symbol.text = [] := by
    simp [List.flatMap_eq_nil_iff, Symbol.text]
  rw [silent] at kept
  cases kept

end Words

section Reading
open Words

variable {name line : String} {mode : QuoteMode}

theorem tokenize_name_iff :
    tokenize (name ++ " ") mode = .ok [name] ↔ IsPlain name := by
  constructor
  · intro read
    have divided := split_of_tokenize read
    rw [String.toList_append] at divided
    refine ⟨?_, ordinary_of_split divided⟩
    rintro rfl
    cases mode <;> exact absurd read (by decide)
  · rintro ⟨filled, ordinary⟩
    have divided := split_ordinary (by simpa using filled) ordinary mode
    rw [tokenize, String.toList_append]
    simp [divided]

inductive ReadOtherwise (name : String) (mode : QuoteMode) :
    Except ShellError (List String) → Prop where
  | refused (mark : QuoteMark) (strict : mode = .strict) :
    ReadOtherwise name mode (.error (.unterminatedQuote mark.text))
  | nothing : ReadOtherwise name mode (.ok [])
  | another {word : String} (different : word ≠ name) : ReadOtherwise name mode (.ok [word])
  | several (first second : String) (later : List String) :
    ReadOtherwise name mode (.ok (first :: second :: later))

theorem readOtherwise_of_ne (different : tokenize line mode ≠ .ok [name]) :
    ReadOtherwise name mode (tokenize line mode) := by
  match read : tokenize line mode with
  | .error error =>
    cases mode with
    | permissive => simp [Proofs.LineMending.tokenize_permissive] at read
    | strict =>
      unfold tokenize at read
      split at read
      · cases read
      · next mark _ =>
        cases read
        exact .refused mark rfl
  | .ok [] => exact .nothing
  | .ok [word] => exact .another (by rintro rfl; exact different read)
  | .ok (first :: second :: later) => exact .several first second later

end Reading

namespace Session

/-- Completion fills in the only name with a space after it. Whatever the policy about open quotes
is, the line is read as that name just if it is a word without marks and separators, and any other
name is read as another word, as several words or none, or is refused by strict quoting. -/
theorem complete_reads_back {session after : Session} {request name : String}
    {given : Option (List String)} {proposal : Proposal}
    (asked : session.complete request given = (.ok proposal, after))
    (single : proposal.matched = [name]) :
    proposal.text = name ++ " " ∧ ∀ mode,
      (tokenize proposal.text mode = .ok [name] ↔ Words.IsPlain name) ∧
      (¬Words.IsPlain name → ReadOtherwise name mode (tokenize proposal.text mode)) := by
  obtain ⟨candidates, -, proposed⟩ := exists_proposed asked
  have selected := Completer.matched_propose session.completion request candidates
  rw [proposed, single] at selected
  rw [Completer.propose_single _ selected.symm] at proposed
  obtain ⟨rfl, -⟩ := Prod.mk.inj proposed
  refine ⟨rfl, fun mode => ⟨tokenize_name_iff, ?_⟩⟩
  intro marked
  exact readOtherwise_of_ne (mt tokenize_name_iff.mp marked)

/-- The quote in a name swallows the space after it, or leaves the line open. -/
theorem complete_reads_back_quote :
    let session : Session := { settings := {}, machine := { world := ⟨{ owned := [] }, .root⟩ } }
    let proposal : Proposal := { action := .replace, text := "it's ", matched := ["it's"] }
    ∃ after, session.complete "i" (some ["it's", "exit"]) = (.ok proposal, after) ∧
      proposal.matched = ["it's"] ∧
      ∀ mode, ReadOtherwise "it's" mode (tokenize proposal.text mode) := by
  intro session proposal
  have selected : Completer.candidatesFor (Text.strip "i") ["it's", "exit"] = ["it's"] := by
    refine Completer.candidatesFor_eq (by decide) ?_
    intro word
    simp only [List.mem_cons, List.not_mem_nil, or_false]
    constructor
    · rintro rfl
      decide
    · rintro ⟨rfl | rfl, starts⟩
      · rfl
      · exact absurd starts (by decide)
  obtain ⟨after, asked, -⟩ := session.complete_among "i" ["it's", "exit"]
  rw [Completer.propose_single _ selected] at asked
  obtain ⟨-, reads⟩ := complete_reads_back asked rfl
  have marked : ¬Words.IsPlain "it's" := fun plain => plain.ordinary '\'' (by decide) (by decide)
  exact ⟨after, asked, rfl, fun mode => (reads mode).2 marked⟩

end Session

end CommandShell
