import CommandShell.History
import Mathlib.Data.List.DropRight

/-! The text of a history file. What is read from a file are plain lines. Written to a file, and cut
to its last lines from behind, they are the last ones of the history. -/

namespace CommandShell.History

/-- Whether a line comes to one line of a file. A zero would end it before its end. -/
structure IsPlain (line : Bytes) : Prop where
  filled : line ≠ []
  single : lineEnd ∉ line
  whole : 0 ∉ line

/-- The lines of a history that are saved. A negative size keeps all of them. -/
def lastOf (size : Int) (lines : List Bytes) : List Bytes :=
  if size < 0 then lines else lines.rtake size.toNat

variable {line data kept : Bytes} {lines : List Bytes}

theorem endedLines_single {current : Bytes} (single : lineEnd ∉ current)
    (member : line ∈ endedLines current data) : lineEnd ∉ line := by
  induction data generalizing current with
  | nil => cases member
  | cons byte rest ih =>
    unfold endedLines at member
    split at member
    · rcases List.mem_cons.mp member with rfl | later
      · simpa using single
      · exact ih List.not_mem_nil later
    · next inner =>
      apply ih _ member
      simp [single, Ne.symm inner]

theorem sublist_tidy (line : Bytes) : (tidy line).Sublist line := by
  unfold tidy
  dsimp only
  split
  next before ended =>
    have same : line = before.reverse ++ [0x0D] := by
      rw [← List.reverse_reverse line, ended, List.reverse_cons]
    rw [same]
    exact (List.takeWhile_sublist _).trans (List.sublist_append_left _ _)
  next => exact List.takeWhile_sublist _

theorem zero_not_mem_tidy (line : Bytes) : 0 ∉ tidy line := by
  intro member
  have kept := List.mem_takeWhile_imp member
  simp at kept

theorem isPlain_of_mem_parse (member : line ∈ parse data) : IsPlain line := by
  obtain ⟨tidied, chosen⟩ := List.mem_filter.mp member
  obtain ⟨whole, ended, rfl⟩ := List.mem_map.mp tidied
  refine ⟨?_, ?_, zero_not_mem_tidy whole⟩
  · intro empty
    simp [empty] at chosen
  · intro inner
    exact endedLines_single List.not_mem_nil ended ((sublist_tidy whole).mem inner)

theorem IsPlain.unmarked (plain : IsPlain line) (later : Bytes) :
    startsWithMarked 0 (line ++ later) = false := by
  cases line with
  | nil => exact absurd rfl plain.filled
  | cons first rest =>
    have different : first ≠ 0 := by
      rintro rfl
      exact plain.whole List.mem_cons_self
    cases both : rest ++ later with
    | nil => simp [startsWithMarked, both]
    | cons second others => simp [startsWithMarked, both, different]

/-- Bytes that end no line are passed over. -/
theorem lastLinesFrom_append (count : Nat) {passed : Bytes} (single : lineEnd ∉ passed)
    (before : Bytes) :
    lastLinesFrom count kept (passed.reverse ++ before) = lastLinesFrom count (passed ++ kept) before := by
  induction passed using List.reverseRecOn generalizing kept with
  | nil => rfl
  | append_singleton passed byte ih =>
    obtain ⟨inner, different⟩ : lineEnd ∉ passed ∧ byte ≠ lineEnd := by
      simpa [not_or, eq_comm] using single
    rw [List.reverse_append, List.reverse_singleton, List.append_assoc, List.append_assoc]
    have step : ∀ rest : Bytes,
        lastLinesFrom count kept (byte :: rest) = lastLinesFrom count (byte :: kept) rest := by
      intro rest
      cases rest with
      | nil => simp [lastLinesFrom]
      | cons next rest => simp [lastLinesFrom, different]
    exact (step _).trans (ih inner)

/-- The induction is over the lines from the last one on, as the file is read. -/
theorem lastLinesFrom_render (count : Nat) (plain : ∀ line ∈ lines, IsPlain line)
    (unmarked : startsWithMarked 0 kept = false) :
    lastLinesFrom count kept (render lines).reverse =
      if count < lines.length then some (render (lines.rtake count) ++ kept) else none := by
  induction lines using List.reverseRecOn generalizing count kept with
  | nil => simp [render, lastLinesFrom]
  | append_singleton lines line ih =>
    obtain ⟨earlier, last⟩ : (∀ line ∈ lines, IsPlain line) ∧ IsPlain line := by
      simpa [or_imp, forall_and] using plain
    have backwards : (render (lines ++ [line])).reverse =
        lineEnd :: (line.reverse ++ (render lines).reverse) := by
      simp [render]
    obtain ⟨first, rest, filled⟩ : ∃ first rest,
        line.reverse ++ (render lines).reverse = first :: rest := by
      apply List.exists_cons_of_ne_nil
      simp [last.filled]
    rw [backwards]
    cases count with
    | zero =>
      rw [filled]
      simp [lastLinesFrom, unmarked, render, List.rtake]
    | succ count =>
      have step : lastLinesFrom (count + 1) kept (lineEnd :: (line.reverse ++ (render lines).reverse)) =
          lastLinesFrom count (lineEnd :: kept) (line.reverse ++ (render lines).reverse) := by
        rw [filled]
        simp [lastLinesFrom, unmarked]
      rw [step, lastLinesFrom_append count last.single, ih count earlier (last.unmarked _),
        List.rtake_concat_succ]
      simp [render]

/-- A file of plain lines is cut to its last lines, where it has more than are asked for. -/
theorem lastLines?_render (count : Nat) (plain : ∀ line ∈ lines, IsPlain line) :
    lastLines? count (render lines) =
      if count < lines.length then some (render (lines.rtake count)) else none := by
  rw [lastLines?, lastLinesFrom_render count plain rfl, List.append_nil]

theorem lastOf_of_length_le {size : Int} (few : size < 0 ∨ lines.length ≤ size.toNat) :
    lastOf size lines = lines := by
  unfold lastOf
  split
  · rfl
  · next positive =>
    have all : lines.length - size.toNat = 0 := by omega
    rw [List.rtake, all, List.drop_zero]

theorem lastOf_nil (size : Int) : lastOf size [] = [] :=
  lastOf_of_length_le (.inr (Nat.zero_le _))

/-- Whether a line reads back as it is: it has no carriage return at its end, and is no time. -/
structure IsKept (line : Bytes) : Prop extends IsPlain line where
  ended : line.getLast? ≠ some 0x0D
  untimed : startsWithMarked timeMark line = false

theorem endedLines_append {current rest : Bytes} (single : lineEnd ∉ line) :
    endedLines current (line ++ lineEnd :: rest) = (current.reverse ++ line) :: endedLines [] rest := by
  induction line generalizing current with
  | nil => simp [endedLines]
  | cons byte line ih =>
    obtain ⟨different, inner⟩ : byte ≠ lineEnd ∧ lineEnd ∉ line := by
      simpa [not_or, eq_comm] using single
    rw [List.cons_append, endedLines, if_neg different, ih inner]
    simp

theorem tidy_of_kept (kept : IsKept line) : tidy line = line := by
  have shown : (line.takeWhile (· ≠ 0)) = line := by
    apply List.takeWhile_eq_self_iff.mpr
    intro byte member
    apply decide_eq_true
    rintro rfl
    exact kept.whole member
  unfold tidy
  split
  next before reversed =>
    have last := kept.ended
    rw [← List.head?_reverse, reversed] at last
    exact absurd rfl last
  next => exact shown

theorem untimed_render (kept : ∀ line ∈ lines, IsKept line) :
    startsWithMarked timeMark (render lines) = false := by
  cases lines with
  | nil => rfl
  | cons line lines =>
    have first := kept line List.mem_cons_self
    have untimed := first.untimed
    match line, first.filled with
    | [byte], _ => simp [render, startsWithMarked, lineEnd]
    | byte :: next :: rest, _ => simpa [render, startsWithMarked] using untimed

theorem endedLines_render (single : ∀ line ∈ lines, lineEnd ∉ line) :
    endedLines [] (render lines) = lines := by
  induction lines with
  | nil => rfl
  | cons line lines ih =>
    obtain ⟨first, others⟩ := List.forall_mem_cons.mp single
    have divided : render (line :: lines) = line ++ lineEnd :: render lines := by simp [render]
    rw [divided, endedLines_append first, ih others]
    rfl

/-- What is saved of such lines reads back as them. -/
theorem parse_render (kept : ∀ line ∈ lines, IsKept line) : parse (render lines) = lines := by
  have ended := endedLines_render fun line member => (kept line member).single
  have tidied : lines.map tidy = lines := by
    have same : lines.map tidy = lines.map id :=
      List.map_congr_left fun line member => tidy_of_kept (kept line member)
    rw [same, List.map_id]
  have chosen : lines.filter (fun line => !line.isEmpty) = lines := by
    apply List.filter_eq_self.mpr
    intro line member
    simpa using (kept line member).filled
  simp only [parse, untimed_render kept, ended, tidied, Bool.false_and, Bool.not_false,
    Bool.and_true, chosen]

end CommandShell.History
