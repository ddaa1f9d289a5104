import CommandShell.Proofs.CompletionAnswers
import CommandShell.Proofs.CompletionHistory

/-! What a proposal says about the candidates. It names just those that the request starts, in
order and each of them once, and fills in all that they share and nothing else. -/

namespace CommandShell

namespace Completer

structure Shared (words : List String) (text : String) : Prop where
  starts : ∀ word ∈ words, text.toList <+: word.toList
  longest : ∀ other : String, (∀ word ∈ words, other.toList <+: word.toList) →
    other.length ≤ text.length

structure Exact (start : String) (candidates : List String) (proposal : Proposal) : Prop where
  increasing : proposal.matched.Pairwise (· < ·)
  selects : ∀ word, word ∈ proposal.matched ↔ word ∈ candidates ∧ start.toList <+: word.toList
  answers : match proposal.matched with
    | [] => proposal.action = .bell ∧ proposal.text = ""
    | [word] => proposal.action = .replace ∧ proposal.text = word ++ " "
    | words => ∃ shared, Shared words shared ∧
        (start.length < shared.length → proposal.action = .replace ∧ proposal.text = shared) ∧
        (shared.length ≤ start.length →
          (proposal.action = .bell ∨ proposal.action = .list) ∧ proposal.text = start)

/-- How a replacement goes on from a start. It is what all candidates with that start share, and a
space follows only the single one of them. -/
structure Fills (start : String) (candidates : List String) (text : String) : Prop where
  begins : start.toList <+: text.toList
  shares : ∃ shared : String,
    (∀ word ∈ candidates, start.toList <+: word.toList → shared.toList <+: word.toList) ∧
    (text = shared ∨ text = shared ++ " " ∧
      ∀ word ∈ candidates, start.toList <+: word.toList → word = shared)

section Answers

variable {state : CompletionState} {request start word first second shared : String}
  {candidates words later : List String} {proposal : Proposal}

theorem shared_longestCommonStart (filled : words ≠ []) :
    Shared words (longestCommonStart words) where
  starts := (prefix_longestCommonStart_iff filled).mp (List.prefix_refl _)
  longest := by
    intro other starts
    have begins := (prefix_longestCommonStart_iff filled).mpr starts
    simpa only [String.length_toList] using begins.length_le

theorem matched_propose (state : CompletionState) (request : String) (candidates : List String) :
    (propose state request candidates).1.matched =
      candidatesFor (Text.strip request) candidates := by
  match selected : candidatesFor (Text.strip request) candidates with
  | [] | [word] => simp only [propose, selected]
  | first :: second :: later =>
    simp only [propose, selected]
    split
    · rfl
    split <;> rfl

theorem propose_single (state : CompletionState)
    (selected : candidatesFor (Text.strip request) candidates = [word]) :
    propose state request candidates =
      ({ action := .replace, text := word ++ " ", matched := [word] }, {}) := by
  rw [propose, selected]

theorem propose_longer (state : CompletionState)
    (selected : candidatesFor (Text.strip request) candidates = first :: second :: later)
    (longer : (Text.strip request).length <
      (longestCommonStart (first :: second :: later)).length) :
    propose state request candidates =
      ({ action := .replace, text := longestCommonStart (first :: second :: later),
         matched := first :: second :: later }, {}) := by
  simp only [propose, selected, longer, if_true]

theorem propose_held (state : CompletionState)
    (selected : candidatesFor (Text.strip request) candidates = first :: second :: later)
    (held : ¬(Text.strip request).length <
      (longestCommonStart (first :: second :: later)).length) :
    ((propose state request candidates).1.action = .bell ∨
        (propose state request candidates).1.action = .list) ∧
      (propose state request candidates).1.text = Text.strip request := by
  simp only [propose, selected, held, if_false]
  split
  · exact ⟨.inr rfl, rfl⟩
  · exact ⟨.inl rfl, rfl⟩

theorem exact_propose (state : CompletionState) (request : String) (candidates : List String) :
    Exact (Text.strip request) candidates (propose state request candidates).1 where
  increasing := by
    rw [matched_propose]
    exact candidatesFor_increasing _ candidates
  selects := by
    intro word
    rw [matched_propose]
    exact mem_candidatesFor
  answers := by
    rw [matched_propose]
    match selected : candidatesFor (Text.strip request) candidates with
    | [] => simp [propose, selected]
    | [word] => simp [propose_single state selected]
    | first :: second :: later =>
      refine ⟨_, shared_longestCommonStart (List.cons_ne_nil first (second :: later)), ?_, ?_⟩
      · intro longer
        rw [propose_longer state selected longer]
        exact ⟨rfl, rfl⟩
      · intro short
        exact propose_held state selected (not_lt.mpr short)

/-- A text that starts all of some words is no longer than what they share, and starts it. -/
theorem Shared.begins (most : Shared words shared) (filled : words ≠ [])
    (starts : ∀ word ∈ words, start.toList <+: word.toList) : start.toList <+: shared.toList := by
  obtain ⟨word, words, rfl⟩ := List.exists_cons_of_ne_nil filled
  refine List.prefix_of_prefix_length_le (starts word List.mem_cons_self)
    (most.starts word List.mem_cons_self) ?_
  simpa only [String.length_toList] using most.longest start starts

theorem Exact.fills (exact : Exact start candidates proposal)
    (replaced : proposal.action = .replace) : Fills start candidates proposal.text := by
  obtain ⟨-, selects, answers⟩ := exact
  have selected : ∀ word ∈ candidates, start.toList <+: word.toList → word ∈ proposal.matched :=
    fun word member starts => (selects word).mpr ⟨member, starts⟩
  have started : ∀ word ∈ proposal.matched, start.toList <+: word.toList :=
    fun word member => ((selects word).mp member).2
  generalize proposal.matched = matched at answers selected started
  match matched with
  | [] => simp [replaced] at answers
  | [word] =>
    obtain ⟨-, text⟩ := answers
    have single : ∀ other ∈ candidates, start.toList <+: other.toList → other = word :=
      fun other member starts => List.mem_singleton.mp (selected other member starts)
    refine ⟨?_, word, ?_, .inr ⟨text, single⟩⟩
    · rw [text, String.toList_append]
      exact (started word List.mem_cons_self).trans (List.prefix_append _ _)
    · intro other member starts
      obtain rfl := single other member starts
      exact List.prefix_refl _
  | first :: second :: later =>
    obtain ⟨shared, shares, longer, held⟩ := answers
    have short : ¬shared.length ≤ start.length := by
      intro short
      obtain ⟨rung | listed, -⟩ := held short
      · simp [replaced] at rung
      · simp [replaced] at listed
    rw [(longer (not_le.mp short)).2]
    refine ⟨shares.begins (List.cons_ne_nil _ _) started, shared, ?_, .inl rfl⟩
    intro word member starts
    exact shares.starts word (selected word member starts)

end Answers

end Completer

namespace Session

/-- An answer is a proposal among candidates, and leaves the state of completion that goes with
it. -/
theorem exists_proposed {session after : Session} {request : String}
    {given : Option (List String)} {proposal : Proposal}
    (asked : session.complete request given = (.ok proposal, after)) :
    ∃ candidates, (session.candidatesOr given).1 = .ok candidates ∧
      Completer.propose session.completion request candidates = (proposal, after.completion) := by
  cases offered : (session.candidatesOr given).1 with
  | error fault =>
    unfold complete at asked
    generalize session.candidatesOr given = answer at asked offered
    obtain ⟨names, later⟩ := answer
    obtain rfl : names = .error fault := offered
    cases asked
  | ok candidates =>
    obtain ⟨last, answer, completion⟩ := complete_of_offered request offered
    cases answer.symm.trans asked
    exact ⟨candidates, rfl, Prod.ext rfl completion.symm⟩

theorem complete_among (session : Session) (request : String) (candidates : List String) :
    ∃ after, session.complete request (some candidates) =
        (.ok (Completer.propose session.completion request candidates).1, after) ∧
      after.completion = (Completer.propose session.completion request candidates).2 :=
  complete_of_offered request rfl

theorem complete_of_mem_iff {candidates others : List String}
    (same : ∀ word, word ∈ others ↔ word ∈ candidates) (session : Session) (request : String) :
    session.complete request (some others) = session.complete request (some candidates) := by
  simp only [complete, candidatesOr, Completer.propose_of_mem_iff same]

/-- Every request is answered, and the answer is exact: it names the candidates with the requested
start strictly in order, says nothing for none of them, fills in the only one with a space after
it, and of several all that they share. So a replacement goes on from the start and loses none of
these candidates. In what order and how often candidates are given makes no difference to the
answer, nor to the session after it. -/
theorem complete_exact (session : Session) (request : String) (candidates : List String) :
    ∃ proposal after, session.complete request (some candidates) = (.ok proposal, after) ∧
      Completer.Exact (Text.strip request) candidates proposal ∧
      (proposal.action = .replace →
        Completer.Fills (Text.strip request) candidates proposal.text) ∧
      ∀ others, (∀ word, word ∈ others ↔ word ∈ candidates) →
        session.complete request (some others) = (.ok proposal, after) := by
  have exact := Completer.exact_propose session.completion request candidates
  refine ⟨_, _, rfl, exact, exact.fills, ?_⟩
  intro others same
  rw [complete_of_mem_iff same]
  rfl

end Session

end CommandShell
