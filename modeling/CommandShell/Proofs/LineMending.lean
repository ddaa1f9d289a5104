import CommandShell.Proofs.LineGrammar
import Mathlib.Algebra.Ring.Parity
import Mathlib.Data.List.DropRight

/-! Lines that end inside a quote or after an escape. Permissive quoting reads such a line as
strict quoting reads the line with its end mended: an open quote is closed, and an escape that
protects nothing is dropped, or protected itself where it stands between double quotes. -/

namespace CommandShell.Proofs.LineMending
open Words LineGrammar

/-- Whether the last character of a line is a backslash that waits for what it protects. Of the
backslashes at the end of a line, each second one is protected by the one before it. -/
def EndsInEscape (line : List Char) : Prop := Odd (line.rtakeWhile (· = '\\')).length

/-- How the end of a line is mended, by the mark that it leaves open. -/
inductive Mended : QuoteMark → (line mended : String) → Prop where
  | single (line : String) : Mended .single line (line ++ "'")
  | double {line : String} (complete : ¬EndsInEscape line.toList) :
    Mended .double line (line ++ "\"")
  | escapedInDouble {line : String} (pending : EndsInEscape line.toList) :
    Mended .double line (line ++ "\\\"")
  | escaped (line : String) : Mended .backslash (line ++ "\\") line

section Escapes

variable {line : List Char} {char : Char}

theorem endsInEscape_backslash : EndsInEscape (line ++ ['\\']) ↔ ¬EndsInEscape line := by
  rw [EndsInEscape, List.rtakeWhile_concat_pos _ _ _ (by simp), List.length_append,
    List.length_singleton, Nat.odd_add_one]
  rfl

theorem not_endsInEscape_other (different : char ≠ '\\') : ¬EndsInEscape (line ++ [char]) := by
  rw [EndsInEscape, List.rtakeWhile_concat_neg _ _ _ (by simpa using different)]
  simp

theorem scan_concat (context : QuoteContext) (line : List Char) (char : Char) :
    scan context (line ++ [char]) =
      ((scan context line).1 ++ (step (scan context line).2 char).1,
        (step (scan context line).2 char).2) := by
  simp only [scan_append, scan, List.append_nil]

theorem escaping_step_other (context : QuoteContext) (different : char ≠ '\\') :
    (step context char).2.escaping = false := by
  cases context with
  | plain | single | double => simp only [step, different, if_false]; split_ifs <;> rfl
  | escaped | escapedInDouble => rfl

/-- Only between single quotes a backslash at the end protects nothing and is not protected. -/
theorem escaping_iff (unquoted : (scan .plain line).2 ≠ .single) :
    (scan .plain line).2.escaping = true ↔ EndsInEscape line := by
  induction line using List.reverseRecOn with
  | nil => simp [scan, QuoteContext.escaping, EndsInEscape]
  | append_singleton line char ih =>
    rw [scan_concat] at unquoted ⊢
    by_cases backslash : char = '\\'
    · subst backslash
      rw [endsInEscape_backslash]
      cases context : (scan .plain line).2 with
      | single =>
        rw [context] at unquoted
        exact absurd rfl unquoted
      | plain | escaped | double | escapedInDouble =>
        rw [← ih (by simp [context]), context]
        simp [step, QuoteContext.escaping, escapesInDouble]
    · rw [escaping_step_other _ backslash]
      simp [not_endsInEscape_other backslash]

/-- A line that ends after an escape outside quotes leaves nothing open without it. -/
theorem exists_of_escaped (unclosed : (scan .plain line).2 = .escaped) :
    ∃ before, line = before ++ ['\\'] ∧ (scan .plain before).2 = .plain := by
  cases line using List.reverseRecOn with
  | nil => cases unclosed
  | append_singleton before char =>
    rw [scan_concat] at unclosed
    by_cases backslash : char = '\\'
    · subst backslash
      refine ⟨before, rfl, ?_⟩
      cases context : (scan .plain before).2 <;> simp [context, step, escapesInDouble] at unclosed ⊢
    · have quiet := escaping_step_other (scan .plain before).2 backslash
      dsimp only at unclosed
      rw [unclosed] at quiet
      cases quiet

end Escapes

section Endings

variable {line : String}

theorem tokenize_permissive (line : String) : tokenize line .permissive =
    .ok ((group ((scan .plain line.toList).1 ++ closing (scan .plain line.toList).2)).map
      String.ofList) := by
  simp only [tokenize, split]

theorem tokenize_strict (closed : (scan .plain line.toList).2 = .plain) :
    tokenize line .strict = .ok ((group (scan .plain line.toList).1).map String.ofList) := by
  simp [tokenize, split, closed, openMark_eq_none.mpr, closing]

/-- Closing a line with just what is supplied at its end makes the policies agree on it. -/
theorem tokenize_closed {rest : String}
    (closes : scan (scan .plain line.toList).2 rest.toList =
      (closing (scan .plain line.toList).2, .plain)) :
    tokenize (line ++ rest) .strict = tokenize line .permissive := by
  have read : scan .plain (line ++ rest).toList =
      ((scan .plain line.toList).1 ++ closing (scan .plain line.toList).2, .plain) := by
    rw [String.toList_append, scan_append, closes]
  rw [tokenize_strict (congrArg Prod.snd read), tokenize_permissive, read]

/-- An escape outside quotes at the end of a line adds nothing to it. -/
theorem tokenize_escaped (closed : (scan .plain line.toList).2 = .plain) :
    tokenize (line ++ "\\") .permissive = tokenize line .strict := by
  have read : scan .plain (line ++ "\\").toList = ((scan .plain line.toList).1, .escaped) := by
    rw [String.toList_append, scan_append, closed]
    simp [scan, step]
  simp only [tokenize_strict closed, tokenize_permissive, read, closing, List.append_nil]

theorem exists_mended (unclosed : (scan .plain line.toList).2 ≠ .plain) :
    ∃ mark mended, tokenize line .strict = .error (.unterminatedQuote mark.text) ∧
      Mended mark line mended ∧ tokenize mended .strict = tokenize line .permissive := by
  cases context : (scan .plain line.toList).2 with
  | plain => exact absurd context unclosed
  | single =>
    refine ⟨.single, _, tokenize_of_open ?_, .single line, tokenize_closed ?_⟩
    all_goals rw [context]; rfl
  | double =>
    have complete : ¬EndsInEscape line.toList := by
      rw [← escaping_iff (by simp [context]), context]
      decide
    refine ⟨.double, _, tokenize_of_open ?_, .double complete, tokenize_closed ?_⟩
    all_goals rw [context]; rfl
  | escapedInDouble =>
    have pending : EndsInEscape line.toList := by
      rw [← escaping_iff (by simp [context]), context]
      decide
    refine ⟨.double, _, tokenize_of_open ?_, .escapedInDouble pending, tokenize_closed ?_⟩
    all_goals rw [context]; rfl
  | escaped =>
    have refused :
        tokenize line .strict = .error (.unterminatedQuote QuoteMark.backslash.text) := by
      apply tokenize_of_open
      rw [context]
      rfl
    obtain ⟨before, spelled, closed⟩ := exists_of_escaped context
    obtain rfl : line = String.ofList before ++ "\\" := by
      rw [← String.toList_inj, spelled, String.toList_append, String.toList_ofList]
      rfl
    rw [← String.toList_ofList (l := before)] at closed
    exact ⟨.backslash, _, refused, .escaped _, (tokenize_escaped closed).symm⟩

end Endings

/-- Permissive quoting reads every line. It agrees with strict quoting on what that accepts, and
any other line it reads as strict quoting reads the line with its end mended. -/
theorem tokenize_permissive_eq_mended (line : String) :
    (∃ words, tokenize line .permissive = .ok words) ∧
    match tokenize line .strict with
    | .ok words => tokenize line .permissive = .ok words
    | .error error => ∃ mark mended, error = .unterminatedQuote mark.text ∧
        Mended mark line mended ∧ tokenize mended .strict = tokenize line .permissive := by
  refine ⟨⟨_, tokenize_permissive line⟩, ?_⟩
  by_cases closed : (scan .plain line.toList).2 = .plain
  · rw [tokenize_strict closed]
    simp only [tokenize_permissive, closed, closing, List.append_nil]
  · obtain ⟨mark, mended, refused, isMended, same⟩ := exists_mended closed
    rw [refused]
    exact ⟨mark, mended, rfl, isMended, same⟩

end CommandShell.Proofs.LineMending
