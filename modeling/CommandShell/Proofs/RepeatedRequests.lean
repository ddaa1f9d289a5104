import CommandShell.Proofs.Proposals
import Mathlib.Data.List.DropRight

/-! Asking again with what has been filled in. A shared start that no blank surrounds can only be
listed from then on. One that ends in a blank is cut back by the next request, which then fills in
the same again. -/

namespace CommandShell

open scoped List

namespace Text

variable {text : String}

theorem toList_strip (text : String) :
    (strip text).toList = (text.toList.dropWhile isBlank).rdropWhile isBlank :=
  String.toList_ofList

theorem strip_sublist (text : String) : (strip text).toList <+ text.toList := by
  rw [toList_strip]
  exact (List.rdropWhile_prefix isBlank _).sublist.trans (List.dropWhile_sublist isBlank)

theorem length_strip_lt (cut : strip text ≠ text) : (strip text).length < text.length := by
  by_contra whole
  rw [not_lt, ← String.length_toList, ← String.length_toList] at whole
  exact cut (String.toList_inj.mp ((strip_sublist text).eq_of_length_le whole))

/-- A text that does not begin with a blank is cut only at its end. -/
theorem strip_opened (opened : ∀ char ∈ text.toList.head?, isBlank char = false) :
    (strip text).toList = text.toList.rdropWhile isBlank := by
  have kept : text.toList.dropWhile isBlank = text.toList := by
    cases chars : text.toList with
    | nil => rfl
    | cons char rest =>
      rw [chars] at opened
      exact List.dropWhile_cons_of_neg (by simp [opened char rfl])
  rw [toList_strip, kept]

theorem strip_ne_of_blank_end
    (ended : ∃ char ∈ text.toList.getLast?, isBlank char = true) : strip text ≠ text := by
  obtain ⟨char, last, blank⟩ := ended
  intro same
  have kept : (strip text).toList.rdropWhile isBlank = (strip text).toList := by
    rw [toList_strip, List.rdropWhile_idempotent]
  rw [same, List.rdropWhile_eq_self_iff] at kept
  obtain ⟨filled, rfl⟩ := List.mem_getLast?_eq_getLast last
  exact kept filled blank

/-- What has no blank at its end is not cut off where a text goes on from it. -/
theorem prefix_rdropWhile {drop : Char → Bool} {chars further : List Char}
    (begins : chars <+: further) (ended : chars.rdropWhile drop = chars) :
    chars <+: further.rdropWhile drop := by
  obtain ⟨rest, rfl⟩ := begins
  induction rest using List.reverseRecOn with
  | nil => simp [ended]
  | append_singleton rest char ih =>
    rw [← List.append_assoc]
    by_cases dropped : drop char
    · rwa [List.rdropWhile_concat_pos _ _ _ dropped]
    · rw [List.rdropWhile_concat_neg _ _ _ dropped, List.append_assoc]
      exact List.prefix_append _ _

/-- A text that goes on from a stripped one, and does not begin with a blank, still goes on from
it when it is stripped itself. -/
theorem strip_between {request : String} (begins : (strip request).toList <+: text.toList)
    (opened : ∀ char ∈ text.toList.head?, isBlank char = false) :
    (strip request).toList <+: (strip text).toList ∧ (strip text).toList <+: text.toList := by
  rw [strip_opened opened]
  refine ⟨prefix_rdropWhile begins ?_, List.rdropWhile_prefix isBlank _⟩
  rw [toList_strip, List.rdropWhile_idempotent]

end Text

namespace Completer

variable {state : CompletionState} {request start further first second : String}
  {candidates later : List String}

/-- A longer start that all selected words have selects the same words. -/
theorem candidatesFor_further (begins : start.toList <+: further.toList)
    (starts : ∀ word ∈ candidatesFor start candidates, further.toList <+: word.toList) :
    candidatesFor further candidates = candidatesFor start candidates := by
  refine candidatesFor_eq (candidatesFor_increasing start candidates) ?_
  intro word
  constructor
  · intro member
    exact ⟨(mem_candidatesFor.mp member).1, starts word member⟩
  · rintro ⟨given, opens⟩
    exact mem_candidatesFor.mpr ⟨given, begins.trans opens⟩

/-- Several words are filled in with what they share just where that is longer than the start. -/
theorem exists_longer (replaced : (propose state request candidates).1.action = .replace)
    (several : 1 < (propose state request candidates).1.matched.length) :
    ∃ first second later,
      candidatesFor (Text.strip request) candidates = first :: second :: later ∧
      (Text.strip request).length < (longestCommonStart (first :: second :: later)).length := by
  rw [matched_propose] at several
  match selected : candidatesFor (Text.strip request) candidates with
  | [] | [word] => simp [selected] at several
  | first :: second :: later =>
    refine ⟨first, second, later, rfl, ?_⟩
    by_contra held
    obtain ⟨rung | listed, -⟩ := propose_held state selected held
    · simp [replaced] at rung
    · simp [replaced] at listed

section Filled

variable (selected : candidatesFor start candidates = first :: second :: later)

include selected

theorem candidatesFor_filled (begins : start.toList <+: further.toList)
    (inside : further.toList <+: (longestCommonStart (first :: second :: later)).toList) :
    candidatesFor further candidates = first :: second :: later := by
  rw [← selected]
  refine candidatesFor_further begins ?_
  rw [selected]
  intro word member
  have shares := (shared_longestCommonStart (List.cons_ne_nil first (second :: later))).starts
  exact inside.trans (shares word member)

theorem start_begins :
    start.toList <+: (longestCommonStart (first :: second :: later)).toList := by
  rw [prefix_longestCommonStart_iff (List.cons_ne_nil _ _), ← selected]
  intro word member
  exact (mem_candidatesFor.mp member).2

theorem candidatesFor_longestCommonStart :
    candidatesFor (longestCommonStart (first :: second :: later)) candidates =
      first :: second :: later :=
  candidatesFor_filled selected (start_begins selected) (List.prefix_refl _)

/-- What several words share cannot be extended any more. -/
theorem stuck_filled : Stuck (longestCommonStart (first :: second :: later)) candidates := by
  rw [stuck_iff]
  exact ⟨first, second, later, candidatesFor_longestCommonStart selected, lt_irrefl _⟩

end Filled

end Completer

namespace Session

variable {session after : Session} {request text : String} {candidates : List String}
  {proposal : Proposal}

theorem propose_of_complete
    (asked : session.complete request (some candidates) = (.ok proposal, after)) :
    Completer.propose session.completion request candidates = (proposal, after.completion) := by
  obtain ⟨_, offered, proposed⟩ := exists_proposed asked
  cases offered
  exact proposed

/-- Whether the next two requests for a text name some words, the first one with the bell, and the
second one in a list. -/
def RingsThenLists (session : Session) (text : String) (candidates words : List String) : Prop :=
  ∃ rung between listed after,
    session.complete text (some candidates) = (.ok rung, between) ∧
    between.complete text (some candidates) = (.ok listed, after) ∧
    (rung.action = .bell ∧ rung.matched = words) ∧ listed.action = .list ∧ listed.matched = words

theorem ringsThenLists_of_stuck (session : Session)
    (stuck : Completer.Stuck (Text.strip text) candidates)
    (fresh : session.completion.lastStart ≠ some (Text.strip text)) :
    session.RingsThenLists text candidates
      (Completer.candidatesFor (Text.strip text) candidates) := by
  obtain ⟨rung, counted⟩ := Completer.propose_rung stuck fresh
  obtain ⟨between, first, armed⟩ := session.complete_among text candidates
  rw [counted] at armed
  have same : between.completion.lastStart = some (Text.strip text) := by rw [armed]
  have again : 0 < between.completion.repeats := by rw [armed]; exact Nat.one_pos
  obtain ⟨listed, -⟩ := Completer.propose_listed stuck same again
  obtain ⟨after, second, -⟩ := between.complete_among text candidates
  exact ⟨_, between, _, after, first, second, ⟨rung, Completer.matched_propose _ _ _⟩, listed,
    Completer.matched_propose _ _ _⟩

/-- A text that the next request cuts is filled in again, and so there is no bell. -/
theorem strip_of_ringsThenLists {first second : String} {later : List String}
    (shared : text = Completer.longestCommonStart (first :: second :: later))
    (rings : session.RingsThenLists text candidates (first :: second :: later)) :
    Text.strip text = text := by
  obtain ⟨rung, between, -, -, asked, -, ⟨bell, matched⟩, -⟩ := rings
  have proposed := propose_of_complete asked
  have selected := Completer.matched_propose session.completion text candidates
  rw [proposed, matched] at selected
  by_contra cut
  have longer := Text.length_strip_lt cut
  nth_rewrite 2 [shared] at longer
  have replaced := Completer.propose_longer session.completion selected.symm longer
  rw [proposed] at replaced
  simp [(Prod.mk.inj replaced).1] at bell

/-- Where a request fills in what several words share, asking again with it rings the bell for the
same words and then lists them just if there is no blank around it. With a blank at its end alone
it is filled in again whenever it is asked for, so that these words are never listed. -/
theorem complete_converges
    (asked : session.complete request (some candidates) = (.ok proposal, after))
    (replaced : proposal.action = .replace) (several : 1 < proposal.matched.length) :
    (after.RingsThenLists proposal.text candidates proposal.matched ↔
      Text.strip proposal.text = proposal.text) ∧
    ((∃ char ∈ proposal.text.toList.getLast?, Text.isBlank char = true) →
      (∀ char ∈ proposal.text.toList.head?, Text.isBlank char = false) →
      ∀ later : Session,
        (later.complete proposal.text (some candidates)).1 = .ok proposal) := by
  have proposed := propose_of_complete asked
  obtain ⟨first, second, rest, selected, longer⟩ :
      ∃ first second rest,
        Completer.candidatesFor (Text.strip request) candidates = first :: second :: rest ∧
        (Text.strip request).length <
          (Completer.longestCommonStart (first :: second :: rest)).length := by
    have answer : (Completer.propose session.completion request candidates).1 = proposal :=
      congrArg Prod.fst proposed
    rw [← answer] at replaced several
    exact Completer.exists_longer replaced several
  rw [Completer.propose_longer _ selected longer] at proposed
  obtain ⟨rfl, reset⟩ := Prod.mk.inj proposed
  dsimp only
  refine ⟨⟨strip_of_ringsThenLists rfl, ?_⟩, ?_⟩
  · intro whole
    have stuck := Completer.stuck_filled selected
    have same := Completer.candidatesFor_longestCommonStart selected
    rw [← whole] at stuck
    have rings := after.ringsThenLists_of_stuck stuck (by simp [← reset])
    rwa [whole, same] at rings
  · intro ended opened later
    obtain ⟨begins, inside⟩ := Text.strip_between (Completer.start_begins selected) opened
    have same := Completer.candidatesFor_filled selected begins inside
    have cut := Text.length_strip_lt (Text.strip_ne_of_blank_end ended)
    obtain ⟨last, again, -⟩ := later.complete_among
      (Completer.longestCommonStart (first :: second :: rest)) candidates
    rw [again, Completer.propose_longer _ same cut]

/-- What two names share before their second words ends in a blank, and is never gone beyond. -/
theorem complete_converges_blank :
    let session : Session := { settings := {}, machine := { world := ⟨{ owned := [] }, .root⟩ } }
    let candidates := ["my tool", "my app", "my tool"]
    let proposal : Proposal := { action := .replace, text := "my ", matched := ["my app", "my tool"] }
    ∃ after, session.complete " m" (some candidates) = (.ok proposal, after) ∧
      proposal.action = .replace ∧ 1 < proposal.matched.length ∧
      ¬after.RingsThenLists proposal.text candidates proposal.matched ∧
      ∀ later : Session, (later.complete proposal.text (some candidates)).1 = .ok proposal := by
  intro session candidates proposal
  have selected : Completer.candidatesFor (Text.strip " m") candidates = ["my app", "my tool"] := by
    refine Completer.candidatesFor_eq (by decide) ?_
    intro word
    simp only [candidates, List.mem_cons, List.not_mem_nil, or_false]
    constructor
    · rintro (rfl | rfl) <;> decide
    · tauto
  have shared : Completer.longestCommonStart ["my app", "my tool"] = "my " := by decide
  have opened : ∀ char ∈ "my ".toList.head?, Text.isBlank char = false := by
    intro char first
    obtain rfl : 'm' = char := by simpa using first
    decide
  obtain ⟨after, asked, -⟩ := session.complete_among " m" candidates
  rw [Completer.propose_longer _ selected (by decide), shared] at asked
  obtain ⟨converges, repeats⟩ := complete_converges asked rfl (by decide)
  refine ⟨after, asked, rfl, by decide, ?_, repeats ⟨' ', by decide, by decide⟩ opened⟩
  rw [converges]
  decide

end Session

end CommandShell
