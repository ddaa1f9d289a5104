import CommandShell.Log.Level
import Mathlib.Data.List.TakeWhile

/-! Texts of digits. A text that shows nothing but digits is a whole number only if every one of
them is decimal and there are not too many. What a message quotes of a value is printable, so it
stays on one line. -/

namespace CommandShell.Text

def blankCodes : List Nat :=
  List.range' 9 5 ++ List.range' 0x1C 5 ++ List.range' 0x2000 11 ++
    [0x85, 0xA0, 0x1680, 0x2028, 0x2029, 0x202F, 0x205F, 0x3000]

theorem mem_blankCodes {char : Char} (blank : isBlank char = true) : char.toNat ∈ blankCodes := by
  simp only [isBlank, Bool.or_eq_true, Bool.and_eq_true, decide_eq_true_eq, beq_iff_eq] at blank
  simp only [blankCodes, List.mem_append, List.mem_range'_1, List.mem_cons, List.not_mem_nil,
    or_false]
  omega

theorem isBlank_of_showsDigit {char : Char} (digit : showsDigit char = true) :
    isBlank char = false := by
  have each : ∀ code ∈ blankCodes, showsDigit (Char.ofNat code) = false := by decide +kernel
  apply Bool.eq_false_iff.mpr
  intro blank
  have shown := each char.toNat (mem_blankCodes blank)
  rw [Char.ofNat_toNat, digit] at shown
  cases shown

theorem trimBoth_of_kept {drop : Char → Bool} {chars : List Char}
    (kept : ∀ char ∈ chars, drop char = false) : trimBoth drop chars = chars := by
  have front : chars.dropWhile drop = chars := by
    apply List.dropWhile_eq_self_iff.mpr
    intro filled
    exact Bool.eq_false_iff.mp (kept _ (List.getElem_mem filled))
  have back : chars.reverse.dropWhile drop = chars.reverse := by
    apply List.dropWhile_eq_self_iff.mpr
    intro filled
    exact Bool.eq_false_iff.mp (kept _ (List.mem_reverse.mp (List.getElem_mem filled)))
  rw [trimBoth, front, back, List.reverse_reverse]

section Digits

variable {chars : List Char}

theorem ne_of_showsDigit {char other : Char} (digit : showsDigit char = true)
    (shows : showsDigit other = false) : char ≠ other := by
  intro same
  rw [same, shows] at digit
  cases digit

/-- No digit is an underscore, so the digits are read one after another. -/
theorem isSome_accumulate (digits : ∀ char ∈ chars, showsDigit char = true) (value : Nat) :
    (accumulate value false chars).isSome = chars.all isDecimal := by
  induction chars generalizing value with
  | nil => rfl
  | cons char rest ih =>
    obtain ⟨first, later⟩ := List.forall_mem_cons.mp digits
    have other : char ≠ '_' := ne_of_showsDigit first (by decide)
    rw [accumulate, List.all_cons, isDecimal]
    cases decimalValue? char with
    | some digit => exact ih later _
    | none => simp [other]

theorem isSome_readDigits (filled : chars ≠ [])
    (digits : ∀ char ∈ chars, showsDigit char = true) :
    (readDigits chars).isSome = chars.all isDecimal := by
  obtain ⟨char, rest, rfl⟩ := List.exists_cons_of_ne_nil filled
  obtain ⟨-, later⟩ := List.forall_mem_cons.mp digits
  rw [readDigits, List.all_cons, isDecimal]
  cases decimalValue? char with
  | some digit => exact isSome_accumulate later digit
  | none => rfl

theorem countDigits_of_decimal (decimal : ∀ char ∈ chars, isDecimal char = true) :
    countDigits chars = chars.length := by
  have taken : chars.takeWhile (fun char => isDecimal char || char = '_') = chars := by
    apply List.takeWhile_eq_self_iff.mpr
    intro char member
    simp [decimal char member]
  rw [countDigits, taken, List.filter_eq_self.mpr decimal]

theorem exists_readUnsigned_iff (filled : chars ≠ [])
    (digits : ∀ char ∈ chars, showsDigit char = true) :
    (∃ value, readUnsigned chars = .ok value) ↔
      (∀ char ∈ chars, isDecimal char = true) ∧ chars.length ≤ maxDigits := by
  have read := isSome_readDigits filled digits
  unfold readUnsigned
  by_cases decimal : ∀ char ∈ chars, isDecimal char = true
  · rw [List.all_eq_true.mpr decimal] at read
    obtain ⟨value, found⟩ := Option.isSome_iff_exists.mp read
    rw [countDigits_of_decimal decimal, found]
    by_cases long : maxDigits < chars.length
    · simp [long]
    · simpa [long, Nat.le_of_not_lt long] using decimal
  · have unread : readDigits chars = none := by
      rw [← Option.not_isSome_iff_eq_none, read, List.all_eq_true]
      exact decimal
    simp only [unread, decimal, false_and, iff_false]
    split <;> simp

/-- No digit is a blank or a sign, so a text of digits is read as it is. -/
theorem readInteger_of_digits {text : String}
    (digits : ∀ char ∈ text.toList, showsDigit char = true) :
    readInteger text = (readUnsigned text.toList).map fun value => (value : Int) := by
  have kept : trimBoth isNumeralBlank text.toList = text.toList := by
    apply trimBoth_of_kept
    intro char member
    rw [isNumeralBlank, isBlank_of_showsDigit (digits char member), Bool.false_and]
  rw [readInteger, kept]
  split
  · next rest divided =>
    exact absurd (digits '-' (divided ▸ List.mem_cons_self)) (by decide)
  · next rest divided =>
    exact absurd (digits '+' (divided ▸ List.mem_cons_self)) (by decide)
  · rfl

theorem exists_readInteger_iff {text : String} (filled : text ≠ "")
    (digits : ∀ char ∈ text.toList, showsDigit char = true) :
    (∃ value, readInteger text = .ok value) ↔
      (∀ char ∈ text.toList, isDecimal char = true) ∧ text.length ≤ maxDigits := by
  have nonempty : text.toList ≠ [] := by simpa using filled
  rw [← String.length_toList, ← exists_readUnsigned_iff nonempty digits,
    readInteger_of_digits digits]
  cases readUnsigned text.toList <;> simp [Except.map]

end Digits

section Quoting

theorem isPrintable_hexDigits (width code : Nat) :
    ∀ char ∈ hexDigits width code, isPrintable char = true := by
  have each : ∀ digit < 16, isPrintable (Nat.digitChar digit) = true := by decide
  induction width generalizing code with
  | zero => simp [hexDigits]
  | succ width ih =>
    intro char member
    rcases List.mem_append.mp member with member | member
    · exact ih (code / 16) char member
    · rw [List.mem_singleton.mp member]
      exact each _ (Nat.mod_lt _ (by decide))

theorem isPrintable_numericEscape (code : Nat) :
    ∀ char ∈ numericEscape code, isPrintable char = true := by
  have escape (letter : Char) (width : Nat) (shown : isPrintable letter = true) :
      ∀ char ∈ '\\' :: letter :: hexDigits width code, isPrintable char = true := by
    have digits := isPrintable_hexDigits width code
    exact List.forall_mem_cons.mpr ⟨by decide, List.forall_mem_cons.mpr ⟨shown, digits⟩⟩
  unfold numericEscape
  split
  · exact escape 'x' 2 (by decide)
  split
  · exact escape 'u' 4 (by decide)
  · exact escape 'U' 8 (by decide)

theorem isPrintable_displayChar {quote : Char} (shown : isPrintable quote = true) (char : Char) :
    ∀ other ∈ displayChar isPrintable quote char, isPrintable other = true := by
  have backslash : isPrintable '\\' = true := by decide
  unfold displayChar
  split
  · next special =>
    have stands : isPrintable char = true := by
      rcases Bool.or_eq_true_iff.mp special with same | same
      · rwa [of_decide_eq_true same]
      · rwa [of_decide_eq_true same]
    simp [backslash, stands]
  split
  · simp [backslash, show isPrintable 't' = true by decide]
  split
  · simp [backslash, show isPrintable 'n' = true by decide]
  split
  · simp [backslash, show isPrintable 'r' = true by decide]
  split
  · next stands => simpa using stands
  · exact isPrintable_numericEscape _

theorem isPrintable_quoted (text : String) :
    ∀ char ∈ (quoted text).toList, isPrintable char = true := by
  have shown : isPrintable (displayQuote text.toList) = true := by
    unfold displayQuote
    split <;> decide
  intro char member
  rw [quoted, quotedShowing, String.toList_ofList] at member
  simp only [List.cons_append, List.mem_cons, List.mem_append, List.mem_flatMap, List.not_mem_nil,
    or_false] at member
  rcases member with same | ⟨other, -, inside⟩ | same
  · exact same ▸ shown
  · exact isPrintable_displayChar shown other char inside
  · exact same ▸ shown

end Quoting

end CommandShell.Text
