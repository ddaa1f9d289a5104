import CommandShell.Completer
import Mathlib.Data.List.Sort
import Mathlib.Data.String.Basic

/-! The words that a start selects, and the longest start that they share. Selected words are in
order and do not repeat. What the least and the greatest of some words share also starts every word
between them. -/

namespace CommandShell.Completer

theorem startsWith_iff {start word : String} :
    startsWith start word = true ↔ start.toList <+: word.toList :=
  List.isPrefixOf_iff_prefix

theorem prefix_sharedStart_iff {start first second : List Char} :
    start <+: sharedStart first second ↔ start <+: first ∧ start <+: second := by
  fun_induction sharedStart first second generalizing start with
  | case1 char firsts seconds ih =>
    cases start with
    | nil => simp
    | cons head start => simp only [List.cons_prefix_cons, ih]; tauto
  | case2 first firsts second seconds different =>
    cases start with
    | nil => simp
    | cons head start =>
      simp only [List.prefix_nil, reduceCtorEq, false_iff, List.cons_prefix_cons]
      rintro ⟨⟨rfl, -⟩, rfl, -⟩
      exact different rfl
  | case3 first second ended =>
    cases start with
    | nil => simp
    | cons head start =>
      simp only [List.prefix_nil, reduceCtorEq, false_iff, List.cons_prefix_iff]
      rintro ⟨⟨firsts, rfl, -⟩, seconds, rfl, -⟩
      exact ended head firsts head seconds rfl rfl

/-- Words between two others in the order of texts start with what those two share. -/
theorem prefix_of_between {start least word greatest : List Char} (first : start <+: least)
    (last : start <+: greatest) (above : ¬List.Lex (· < ·) word least)
    (below : ¬List.Lex (· < ·) greatest word) : start <+: word := by
  induction start generalizing least word greatest with
  | nil => exact List.nil_prefix
  | cons head start ih =>
    obtain ⟨leasts, rfl, firstRest⟩ := List.cons_prefix_iff.mp first
    obtain ⟨greatests, rfl, lastRest⟩ := List.cons_prefix_iff.mp last
    cases word with
    | nil => exact absurd .nil above
    | cons char word =>
      rcases lt_trichotomy char head with lower | rfl | higher
      · exact absurd (.rel lower) above
      · rw [List.cons_prefix_cons]
        exact ⟨rfl, ih firstRest lastRest (mt .cons above) (mt .cons below)⟩
      · exact absurd (.rel higher) below

/-- Choosing one of two words again and again comes to the word that is beyond all others. -/
theorem foldl_beyond (beyond : String → String → Prop) {choose : String → String → String}
    (refl : ∀ word, beyond word word)
    (trans : ∀ first second third, beyond first second → beyond second third → beyond first third)
    (chosen : ∀ first second, (choose first second = first ∨ choose first second = second) ∧
      beyond (choose first second) first ∧ beyond (choose first second) second)
    (word : String) (words : List String) :
    words.foldl choose word ∈ word :: words ∧
      ∀ other ∈ word :: words, beyond (words.foldl choose word) other := by
  induction words generalizing word with
  | nil => simpa using refl word
  | cons next words ih =>
    obtain ⟨member, all⟩ := ih (choose word next)
    obtain ⟨reaches, later⟩ := List.forall_mem_cons.mp all
    obtain ⟨one, ahead, further⟩ := chosen word next
    rw [List.foldl_cons, List.forall_mem_cons, List.forall_mem_cons]
    refine ⟨?_, trans _ _ _ reaches ahead, trans _ _ _ reaches further, later⟩
    rcases List.mem_cons.mp member with same | inside
    · rw [same]
      rcases one with one | one <;> simp [one]
    · exact List.mem_cons_of_mem _ (List.mem_cons_of_mem _ inside)

theorem foldl_lesser (word : String) (words : List String) :
    words.foldl lesser word ∈ word :: words ∧
      ∀ other ∈ word :: words, words.foldl lesser word ≤ other := by
  refine foldl_beyond (· ≤ ·) le_refl (fun _ _ _ => le_trans) ?_ word words
  intro first second
  unfold lesser
  split
  · next less => exact ⟨.inr rfl, le_of_lt less, le_refl _⟩
  · next more => exact ⟨.inl rfl, le_refl _, not_lt.mp more⟩

theorem foldl_greater (word : String) (words : List String) :
    words.foldl greater word ∈ word :: words ∧
      ∀ other ∈ word :: words, other ≤ words.foldl greater word := by
  refine foldl_beyond (· ≥ ·) le_refl ?_ ?_ word words
  · intro first second third more most
    exact le_trans most more
  · intro first second
    unfold greater
    split
    · next less => exact ⟨.inr rfl, le_of_lt less, le_refl _⟩
    · next more => exact ⟨.inl rfl, le_refl _, not_lt.mp more⟩

/-- The least and the greatest of some words have only those starts in common that all of the words
have. -/
theorem starts_extremes_iff {words : List String} {least greatest : String} {start : List Char}
    (first : least ∈ words) (last : greatest ∈ words)
    (between : ∀ word ∈ words, least ≤ word ∧ word ≤ greatest) :
    (start <+: least.toList ∧ start <+: greatest.toList) ↔
      ∀ word ∈ words, start <+: word.toList := by
  constructor
  · rintro ⟨opens, closes⟩ word member
    obtain ⟨above, below⟩ := between word member
    exact prefix_of_between opens closes (not_lt.mpr above) (not_lt.mpr below)
  · intro all
    exact ⟨all least first, all greatest last⟩

/-- The longest shared start is started by just those texts that start all words. -/
theorem prefix_longestCommonStart_iff {words : List String} (filled : words ≠ [])
    {start : List Char} :
    start <+: (longestCommonStart words).toList ↔ ∀ word ∈ words, start <+: word.toList := by
  obtain ⟨word, words, rfl⟩ := List.exists_cons_of_ne_nil filled
  obtain ⟨least, lower⟩ := foldl_lesser word words
  obtain ⟨greatest, upper⟩ := foldl_greater word words
  rw [longestCommonStart, String.toList_ofList, prefix_sharedStart_iff]
  exact starts_extremes_iff least greatest fun other member =>
    ⟨lower other member, upper other member⟩

section Settled

variable {words others : List String}

/-- A text is settled by what starts it. -/
theorem eq_of_starts_iff {first second : List Char}
    (same : ∀ start : List Char, start <+: first ↔ start <+: second) : first = second := by
  have ahead := (same first).mp (List.prefix_refl _)
  have behind := (same second).mpr (List.prefix_refl _)
  exact ahead.eq_of_length (ahead.length_le.antisymm behind.length_le)

theorem longestCommonStart_of_extremes {least greatest : String} (first : least ∈ words)
    (last : greatest ∈ words) (between : ∀ word ∈ words, least ≤ word ∧ word ≤ greatest) :
    (longestCommonStart words).toList = sharedStart least.toList greatest.toList := by
  apply eq_of_starts_iff
  intro start
  rw [prefix_longestCommonStart_iff (List.ne_nil_of_mem first), prefix_sharedStart_iff]
  exact (starts_extremes_iff first last between).symm

/-- Words that the same texts start share the same. -/
theorem longestCommonStart_of_starts_iff (filled : words ≠ []) (also : others ≠ [])
    (same : ∀ start : List Char, (∀ word ∈ others, start <+: word.toList) ↔
      ∀ word ∈ words, start <+: word.toList) :
    longestCommonStart others = longestCommonStart words := by
  rw [← String.toList_inj]
  apply eq_of_starts_iff
  intro start
  rw [prefix_longestCommonStart_iff also, prefix_longestCommonStart_iff filled, same]

theorem longestCommonStart_of_mem_iff (filled : words ≠ [])
    (same : ∀ word, word ∈ others ↔ word ∈ words) :
    longestCommonStart others = longestCommonStart words := by
  obtain ⟨word, member⟩ := List.exists_mem_of_ne_nil words filled
  have also : others ≠ [] := List.ne_nil_of_mem ((same word).mpr member)
  apply longestCommonStart_of_starts_iff filled also
  intro start
  simp only [same]

/-- A word that goes on from what some words share takes nothing away from it. -/
theorem longestCommonStart_of_added (filled : words ≠ []) {added : String}
    (begins : (longestCommonStart words).toList <+: added.toList)
    (same : ∀ word, word ∈ others ↔ word = added ∨ word ∈ words) :
    longestCommonStart others = longestCommonStart words := by
  have also : others ≠ [] := List.ne_nil_of_mem ((same added).mpr (.inl rfl))
  apply longestCommonStart_of_starts_iff filled also
  intro start
  constructor
  · intro all word member
    exact all word ((same word).mpr (.inr member))
  · intro all word member
    rcases (same word).mp member with rfl | member
    · exact ((prefix_longestCommonStart_iff filled).mpr all).trans begins
    · exact all word member

end Settled

/-- What some words share is the greatest text that starts them all. Their least and their greatest
word settle it: it does not depend on what is between these, nor on the order of the words or on
repeats, and a further word that it starts makes no difference to it. -/
theorem longestCommonStart_greatest :
    longestCommonStart [] = "" ∧
    ∀ words : List String, words ≠ [] →
      (∀ word ∈ words, (longestCommonStart words).toList <+: word.toList) ∧
      (∀ start : String, (∀ word ∈ words, start.toList <+: word.toList) →
        start.toList <+: (longestCommonStart words).toList) ∧
      (∀ least ∈ words, ∀ greatest ∈ words,
        (∀ word ∈ words, least ≤ word ∧ word ≤ greatest) →
        (longestCommonStart words).toList = sharedStart least.toList greatest.toList) ∧
      (∀ others, (∀ word, word ∈ others ↔ word ∈ words) →
        longestCommonStart others = longestCommonStart words) ∧
      ∀ added others, (longestCommonStart words).toList <+: added.toList →
        (∀ word, word ∈ others ↔ word = added ∨ word ∈ words) →
        longestCommonStart others = longestCommonStart words := by
  refine ⟨rfl, fun words filled => ⟨?_, ?_, ?_, ?_, ?_⟩⟩
  · exact (prefix_longestCommonStart_iff filled).mp (List.prefix_refl _)
  · intro start all
    exact (prefix_longestCommonStart_iff filled).mpr all
  · intro least first greatest last between
    exact longestCommonStart_of_extremes first last between
  · intro others same
    exact longestCommonStart_of_mem_iff filled same
  · intro added others begins same
    exact longestCommonStart_of_added filled begins same

theorem mem_distinct {word : String} {words : List String} :
    word ∈ distinct words ↔ word ∈ words := by
  induction words with
  | nil => rfl
  | cons first words ih =>
    rw [List.mem_cons, ← ih, distinct]
    split
    · next ended => simp [ended]
    · next next later kept =>
      rw [kept]
      split
      · next same => simp [same]
      · exact List.mem_cons

/-- Without repeats, words in order are strictly in order. -/
theorem distinct_increasing {words : List String} (ordered : words.Pairwise (· ≤ ·)) :
    (distinct words).Pairwise (· < ·) := by
  induction words with
  | nil => exact .nil
  | cons first words ih =>
    obtain ⟨least, rest⟩ := List.pairwise_cons.mp ordered
    have increasing := ih rest
    rw [distinct]
    split
    · exact List.pairwise_singleton _ _
    · next next later kept =>
      rw [kept] at increasing
      split
      · exact increasing
      · next different =>
        have first_le : first ≤ next := least next (mem_distinct.mp (by simp [kept]))
        have ahead : first < next := lt_of_le_of_ne first_le different
        refine List.pairwise_cons.mpr ⟨?_, increasing⟩
        intro other member
        rcases List.mem_cons.mp member with rfl | member
        · exact ahead
        · exact lt_trans ahead ((List.pairwise_cons.mp increasing).1 other member)

theorem mem_candidatesFor {start word : String} {candidates : List String} :
    word ∈ candidatesFor start candidates ↔ word ∈ candidates ∧ start.toList <+: word.toList := by
  rw [candidatesFor, mem_distinct, List.mem_mergeSort, List.mem_filter, startsWith_iff]

theorem candidatesFor_increasing (start : String) (candidates : List String) :
    (candidatesFor start candidates).Pairwise (· < ·) := by
  apply distinct_increasing
  refine (List.pairwise_mergeSort ?_ ?_ _).imp ?_
  · intro first second third
    simpa using le_trans
  · intro first second
    simpa using le_total first second
  · intro first second
    simp

/-- There is just one way to list the selected words in order and without repeats. -/
theorem candidatesFor_eq {start : String} {candidates words : List String}
    (ordered : words.Pairwise (· < ·))
    (selects : ∀ word, word ∈ words ↔ word ∈ candidates ∧ start.toList <+: word.toList) :
    candidatesFor start candidates = words := by
  refine (candidatesFor_increasing start candidates).eq_of_mem_iff ordered ?_
  intro word
  rw [mem_candidatesFor, selects]

end CommandShell.Completer
