import CommandShell.Proofs.SharedStarts
import CommandShell.Session
import Mathlib.Data.List.Permutation

/-! When completion lists. A request that can add nothing rings the bell, and lists only if such a
request for the same start has rung the bell before it, with nothing but fruitless requests for that
start in between. The state of completion is just what this takes. -/

namespace CommandShell

namespace Completer

def Unmatched (start : String) (candidates : List String) : Prop :=
  ∀ word ∈ candidates, ¬start.toList <+: word.toList

/-- Whether candidates start with a text and yet cannot extend it: there are several of them, and
they share no longer start. -/
structure Stuck (start : String) (candidates : List String) : Prop where
  several : ∃ first ∈ candidates, ∃ second ∈ candidates, first ≠ second ∧
    start.toList <+: first.toList ∧ start.toList <+: second.toList
  shared : ∀ common : List Char,
    (∀ word ∈ candidates, start.toList <+: word.toList → common <+: word.toList) →
      common.length ≤ start.length

variable {start : String} {candidates : List String} {state : CompletionState} {request : String}

theorem Stuck.matched (stuck : Stuck start candidates) : ¬Unmatched start candidates := by
  obtain ⟨⟨first, member, -, -, -, begins, -⟩, -⟩ := stuck
  intro unmatched
  exact unmatched first member begins

theorem candidatesFor_eq_nil_iff :
    candidatesFor start candidates = [] ↔ Unmatched start candidates := by
  simp only [List.eq_nil_iff_forall_not_mem, mem_candidatesFor, not_and, Unmatched]

/-- A start is stuck where several words are selected and the longest start that they share is no
longer. -/
theorem stuck_iff : Stuck start candidates ↔
    ∃ first second later, candidatesFor start candidates = first :: second :: later ∧
      ¬start.length < (longestCommonStart (first :: second :: later)).length := by
  constructor
  · rintro ⟨⟨one, member, other, present, different, begins, starts⟩, shared⟩
    have oneSelected := mem_candidatesFor.mpr ⟨member, begins⟩
    have otherSelected := mem_candidatesFor.mpr ⟨present, starts⟩
    match matched : candidatesFor start candidates with
    | [] => simp [matched] at oneSelected
    | [word] =>
      rw [matched, List.mem_singleton] at oneSelected otherSelected
      exact absurd (oneSelected.trans otherSelected.symm) different
    | first :: second :: later =>
      refine ⟨first, second, later, rfl, ?_⟩
      rw [not_lt, ← String.length_toList]
      apply shared
      intro word inside opens
      have selected := mem_candidatesFor.mpr ⟨inside, opens⟩
      rw [matched] at selected
      have begun := (prefix_longestCommonStart_iff (List.cons_ne_nil first (second :: later))).mp
        (List.prefix_refl _)
      exact begun word selected
  · rintro ⟨first, second, later, matched, short⟩
    have selected : ∀ word ∈ first :: second :: later,
        word ∈ candidates ∧ start.toList <+: word.toList := by
      intro word member
      rw [← matched] at member
      exact mem_candidatesFor.mp member
    have increasing := candidatesFor_increasing start candidates
    rw [matched] at increasing
    have ahead := (List.pairwise_cons.mp increasing).1 second List.mem_cons_self
    obtain ⟨member, begins⟩ := selected first List.mem_cons_self
    obtain ⟨present, starts⟩ := selected second (List.mem_cons_of_mem _ List.mem_cons_self)
    refine ⟨⟨first, member, second, present, ne_of_lt ahead, begins, starts⟩, ?_⟩
    intro common all
    have starting : common <+: (longestCommonStart (first :: second :: later)).toList := by
      rw [prefix_longestCommonStart_iff (List.cons_ne_nil _ _)]
      intro word member
      exact all word (selected word member).1 (selected word member).2
    have bound := starting.length_le
    rw [String.length_toList] at bound
    exact bound.trans (not_lt.mp short)

theorem propose_unmatched (state : CompletionState)
    (unmatched : Unmatched (Text.strip request) candidates) :
    propose state request candidates =
      ({ action := .bell }, state.facing (Text.strip request)) := by
  rw [propose, candidatesFor_eq_nil_iff.mpr unmatched]

theorem propose_listed (stuck : Stuck (Text.strip request) candidates)
    (same : state.lastStart = some (Text.strip request)) (counted : 0 < state.repeats) :
    (propose state request candidates).1.action = .list ∧
      (propose state request candidates).2 = {} := by
  obtain ⟨first, second, later, matched, short⟩ := stuck_iff.mp stuck
  simp [propose, matched, short, CompletionState.facing, same, counted]

theorem propose_rung (stuck : Stuck (Text.strip request) candidates)
    (other : state.lastStart ≠ some (Text.strip request)) :
    (propose state request candidates).1.action = .bell ∧
      (propose state request candidates).2 =
        { lastStart := some (Text.strip request), repeats := 1 } := by
  obtain ⟨first, second, later, matched, short⟩ := stuck_iff.mp stuck
  simp [propose, matched, short, CompletionState.facing, other]

/-- Once the bell has been rung for a start that is stuck, that is remembered. -/
theorem propose_remembers (stuck : Stuck (Text.strip request) candidates)
    (rung : (propose state request candidates).1.action = .bell) :
    (propose state request candidates).2.lastStart = some (Text.strip request) ∧
      0 < (propose state request candidates).2.repeats := by
  obtain ⟨first, second, later, matched, short⟩ := stuck_iff.mp stuck
  simp only [propose, matched, short, if_false] at rung ⊢
  split at rung
  · cases rung
  · next unarmed =>
    rw [if_neg unarmed]
    exact ⟨rfl, Nat.succ_pos _⟩

theorem propose_replaced (state : CompletionState)
    (matched : ¬Unmatched (Text.strip request) candidates)
    (free : ¬Stuck (Text.strip request) candidates) :
    (propose state request candidates).1.action = .replace ∧
      (propose state request candidates).2 = {} := by
  rw [← candidatesFor_eq_nil_iff] at matched
  rw [stuck_iff] at free
  match selected : candidatesFor (Text.strip request) candidates with
  | [] => exact absurd selected matched
  | [word] => simp [propose, selected]
  | first :: second :: later =>
    have longer : (Text.strip request).length <
        (longestCommonStart (first :: second :: later)).length := by
      by_contra short
      exact free ⟨first, second, later, selected, short⟩
    simp [propose, selected, longer]

end Completer

structure CompletionCall where
  request : String
  candidates : List String
  proposal : Proposal

namespace CompletionCall

def start (call : CompletionCall) : String := Text.strip call.request

def Stuck (call : CompletionCall) : Prop := Completer.Stuck call.start call.candidates

def Unmatched (call : CompletionCall) : Prop := Completer.Unmatched call.start call.candidates

/-- Whether a start has been found stuck and the bell has been rung for it, and all calls since
then were for the same start and found nothing. -/
def Armed (calls : List CompletionCall) (start : String) : Prop :=
  ∃ earlier call between, calls = earlier ++ call :: between ∧
    (call.start = start ∧ call.Stuck ∧ call.proposal.action = .bell) ∧
    ∀ other ∈ between, other.start = start ∧ other.Unmatched

/-- The calls that a session has answered since its completion was in its first state, and the
state after them. All else about the session may change between two calls, and a call that fails
has no answer. -/
inductive Answered : List CompletionCall → CompletionState → Prop where
  | start : Answered [] {}
  | call {calls : List CompletionCall} {session after : Session} {request : String}
      {given : Option (List String)} {candidates : List String} {proposal : Proposal}
      (earlier : Answered calls session.completion)
      (offered : (session.candidatesOr given).1 = .ok candidates)
      (proposed : session.complete request given = (.ok proposal, after)) :
      Answered (calls ++ [⟨request, candidates, proposal⟩]) after.completion
  | failure {calls : List CompletionCall} {session after : Session} {request : String}
      {given : Option (List String)} {fault : Fault} (earlier : Answered calls session.completion)
      (failed : session.complete request given = (.error fault, after)) :
      Answered calls after.completion

structure Remembers (state : CompletionState) (calls : List CompletionCall) : Prop where
  counted : state = {} ∨ ∃ start, state = { lastStart := some start, repeats := 1 }
  armed : ∀ start, state.lastStart = some start ↔ Armed calls start

structure Follows (calls : List CompletionCall) (call : CompletionCall) : Prop where
  lists : call.proposal.action = .list ↔ call.Stuck ∧ Armed calls call.start
  rings : call.Stuck → call.proposal.action ≠ .list → call.proposal.action = .bell

variable {calls : List CompletionCall} {call : CompletionCall} {start : String}
  {state : CompletionState}

theorem not_armed_nil : ¬Armed [] start := by
  rintro ⟨earlier, call, between, divided, -⟩
  simp at divided

/-- A place among calls is the last one, or it is a place among the calls before that. -/
theorem places_concat {earlier later : List CompletionCall} {other : CompletionCall}
    (divided : calls ++ [call] = earlier ++ other :: later) :
    (calls = earlier ∧ call = other) ∨
      ∃ before, later = before ++ [call] ∧ calls = earlier ++ other :: before := by
  cases later using List.reverseRecOn with
  | nil => exact .inl (List.append_singleton_inj.mp divided)
  | append_singleton before last =>
    rw [← List.cons_append, ← List.append_assoc] at divided
    obtain ⟨same, rfl⟩ := List.append_singleton_inj.mp divided
    exact .inr ⟨before, rfl, same⟩

/-- The last call arms its start, leaves it armed, or disarms what was armed. -/
theorem armed_concat : Armed (calls ++ [call]) start ↔
    call.start = start ∧
      (call.Stuck ∧ call.proposal.action = .bell ∨ call.Unmatched ∧ Armed calls start) := by
  constructor
  · rintro ⟨earlier, bell, between, divided, armed, all⟩
    obtain ⟨-, rfl⟩ | ⟨before, rfl, same⟩ := places_concat divided
    · exact ⟨armed.1, .inl armed.2⟩
    · obtain ⟨starts, unmatched⟩ := all call (List.mem_append_right _ List.mem_cons_self)
      refine ⟨starts, .inr ⟨unmatched, earlier, bell, before, same, armed, ?_⟩⟩
      intro other inside
      exact all other (List.mem_append_left _ inside)
  · rintro ⟨same, ⟨stuck, rung⟩ | ⟨unmatched, earlier, bell, between, rfl, armed, all⟩⟩
    · exact ⟨calls, call, [], rfl, ⟨same, stuck, rung⟩, by simp⟩
    · refine ⟨earlier, bell, between ++ [call], by simp, armed, ?_⟩
      intro other member
      rcases List.mem_append.mp member with inside | last
      · exact all other inside
      · obtain rfl := List.mem_singleton.mp last
        exact ⟨same, unmatched⟩

def proposed (state : CompletionState) (request : String) (candidates : List String) :
    CompletionCall :=
  ⟨request, candidates, (Completer.propose state request candidates).1⟩

section Step

variable {request : String} {candidates : List String}

theorem follows_unmatched (remembers : Remembers state calls)
    (unmatched : Completer.Unmatched (Text.strip request) candidates) :
    Follows calls (proposed state request candidates) ∧
      Remembers (Completer.propose state request candidates).2
        (calls ++ [proposed state request candidates]) := by
  have free : ¬(proposed state request candidates).Stuck := fun stuck => stuck.matched unmatched
  have answer := Completer.propose_unmatched state unmatched
  have rung : (proposed state request candidates).proposal.action = .bell := by
    rw [proposed, answer]
  refine ⟨⟨by simp [rung, free], fun stuck => absurd stuck free⟩, ?_, ?_⟩
  · rw [answer, CompletionState.facing]
    split
    · exact remembers.counted
    · exact .inl rfl
  · intro start
    have still : (proposed state request candidates).Unmatched := unmatched
    have faced : (state.facing (Text.strip request)).lastStart = some start ↔
        Text.strip request = start ∧ state.lastStart = some start := by
      unfold CompletionState.facing
      split
      · next same => simp [same]
      · next other =>
        constructor
        · intro armed
          cases armed
        · rintro ⟨rfl, armed⟩
          exact absurd armed other
    rw [answer, armed_concat, ← remembers.armed]
    simp only [free, false_and, false_or, still, true_and]
    exact faced

theorem follows_stuck (remembers : Remembers state calls)
    (stuck : Completer.Stuck (Text.strip request) candidates) :
    Follows calls (proposed state request candidates) ∧
      Remembers (Completer.propose state request candidates).2
        (calls ++ [proposed state request candidates]) := by
  have matched : ¬(proposed state request candidates).Unmatched := stuck.matched
  have still : (proposed state request candidates).Stuck := stuck
  by_cases armed : state.lastStart = some (Text.strip request)
  · have counted : 0 < state.repeats := by
      obtain rfl | ⟨start, rfl⟩ := remembers.counted
      · cases armed
      · exact Nat.one_pos
    obtain ⟨listed, reset⟩ := Completer.propose_listed stuck armed counted
    have action : (proposed state request candidates).proposal.action = .list := listed
    refine ⟨⟨?_, fun _ unlisted => absurd action unlisted⟩, .inl reset, ?_⟩
    · simp only [action, still, true_and, true_iff]
      exact (remembers.armed _).mp armed
    · intro start
      simp [armed_concat, action, matched, reset]
  · obtain ⟨rung, counts⟩ := Completer.propose_rung stuck armed
    have action : (proposed state request candidates).proposal.action = .bell := rung
    have unarmed : ¬Armed calls (proposed state request candidates).start := by
      rw [← remembers.armed]
      exact armed
    refine ⟨⟨by simp [action, unarmed], fun _ _ => action⟩, .inr ⟨_, counts⟩, ?_⟩
    intro start
    simp only [counts, Option.some.injEq, armed_concat, still, action, and_self, true_or, and_true]
    rfl

theorem follows_replaced (calls : List CompletionCall)
    (matched : ¬Completer.Unmatched (Text.strip request) candidates)
    (free : ¬Completer.Stuck (Text.strip request) candidates) :
    Follows calls (proposed state request candidates) ∧
      Remembers (Completer.propose state request candidates).2
        (calls ++ [proposed state request candidates]) := by
  obtain ⟨replaced, reset⟩ := Completer.propose_replaced state matched free
  have unstuck : ¬(proposed state request candidates).Stuck := free
  have some_ : ¬(proposed state request candidates).Unmatched := matched
  have action : (proposed state request candidates).proposal.action = .replace := replaced
  refine ⟨⟨by simp [action, unstuck], fun stuck => absurd stuck unstuck⟩, .inl reset, ?_⟩
  intro start
  simp [armed_concat, unstuck, some_, reset]

theorem follows (remembers : Remembers state calls) (request : String)
    (candidates : List String) :
    Follows calls (proposed state request candidates) ∧
      Remembers (Completer.propose state request candidates).2
        (calls ++ [proposed state request candidates]) := by
  by_cases unmatched : Completer.Unmatched (Text.strip request) candidates
  · exact follows_unmatched remembers unmatched
  by_cases stuck : Completer.Stuck (Text.strip request) candidates
  · exact follows_stuck remembers stuck
  · exact follows_replaced calls unmatched stuck

end Step

end CompletionCall

namespace Session

variable {session after : Session} {request : String} {given : Option (List String)}

theorem completion_candidatesOr (session : Session) (given : Option (List String)) :
    (session.candidatesOr given).2.completion = session.completion := by
  cases given <;> rfl

theorem complete_of_offered (request : String) {candidates : List String}
    (offered : (session.candidatesOr given).1 = .ok candidates) :
    ∃ after, session.complete request given =
        (.ok (Completer.propose session.completion request candidates).1, after) ∧
      after.completion = (Completer.propose session.completion request candidates).2 := by
  have kept := session.completion_candidatesOr given
  unfold complete
  generalize session.candidatesOr given = answer at offered kept
  obtain ⟨names, later⟩ := answer
  obtain rfl : names = .ok candidates := offered
  rw [← kept]
  exact ⟨_, rfl, rfl⟩

/-- A call that fails leaves the state of completion as it was. -/
theorem complete_failed {fault : Fault}
    (failed : session.complete request given = (.error fault, after)) :
    after.completion = session.completion := by
  have kept := session.completion_candidatesOr given
  unfold complete at failed
  generalize session.candidatesOr given = answer at failed kept
  obtain ⟨names | names, later⟩ := answer
  · cases failed
    exact kept
  · cases failed

end Session

namespace CompletionCall

/-- Whatever is asked for, among whatever candidates, some session answers it next. -/
theorem Answered.proposed (earlier : Answered calls state) (request : String)
    (candidates : List String) :
    Answered (calls ++ [CompletionCall.proposed state request candidates])
      (Completer.propose state request candidates).2 := by
  let session : Session :=
    { settings := {}, machine := { world := ⟨{ owned := [] }, .root⟩ }, completion := state }
  have offered : (session.candidatesOr (some candidates)).1 = .ok candidates := rfl
  obtain ⟨after, answer, completion⟩ := Session.complete_of_offered request offered
  rw [← show after.completion = _ from completion]
  have before : Answered calls session.completion := earlier
  exact .call before offered answer

/-- The induction over a history: each call follows from those before it, and the state after
the last one remembers them all. -/
theorem Answered.follows (answered : Answered calls state) :
    Remembers state calls ∧
      ∀ earlier call later, calls = earlier ++ call :: later → Follows earlier call := by
  induction answered with
  | start =>
    refine ⟨⟨.inl rfl, by simp [not_armed_nil]⟩, ?_⟩
    intro earlier call later divided
    simp at divided
  | @call calls session after request given candidates proposal _ offered answer ih =>
    obtain ⟨remembers, all⟩ := ih
    obtain ⟨last, proposed, completion⟩ := Session.complete_of_offered request offered
    obtain ⟨rfl, rfl⟩ : _ ∧ after = last := by simpa using answer.symm.trans proposed
    obtain ⟨next, kept⟩ := CompletionCall.follows remembers request candidates
    rw [completion]
    refine ⟨kept, ?_⟩
    intro earlier call later divided
    obtain ⟨rfl, rfl⟩ | ⟨before, rfl, same⟩ := places_concat divided
    · exact next
    · exact all earlier call before same
  | failure earlier failed ih =>
    rw [Session.complete_failed failed]
    exact ih

/-- No call lists right after another one has. -/
theorem Follows.not_both_list {earlier : List CompletionCall} {first second : CompletionCall}
    (one : Follows earlier first) (next : Follows (earlier ++ [first]) second) :
    ¬(first.proposal.action = .list ∧ second.proposal.action = .list) := by
  rintro ⟨listed, again⟩
  obtain ⟨stuck, -⟩ := one.lists.mp listed
  obtain ⟨-, armed⟩ := next.lists.mp again
  obtain ⟨-, ⟨-, rung⟩ | ⟨unmatched, -⟩⟩ := armed_concat.mp armed
  · simp [listed] at rung
  · exact stuck.matched unmatched

theorem Remembers.known (remembers : Remembers state calls) :
    state = {} ∨ ∃ call ∈ calls, state = { lastStart := some call.start, repeats := 1 } := by
  obtain empty | ⟨start, rfl⟩ := remembers.counted
  · exact .inl empty
  · obtain ⟨earlier, call, between, rfl, ⟨rfl, -⟩, -⟩ := (remembers.armed start).mp rfl
    exact .inr ⟨call, by simp, rfl⟩

/-- A call lists just where it is stuck and its start is armed, and else a stuck call rings the
bell. So no two calls in a row list, and the state of completion is empty or counts one call. -/
theorem list_iff_armed (answered : Answered calls state) :
    (∀ earlier call later, calls = earlier ++ call :: later →
      (call.proposal.action = .list ↔ call.Stuck ∧ Armed earlier call.start) ∧
      (call.Stuck → call.proposal.action ≠ .list → call.proposal.action = .bell)) ∧
    (∀ earlier first second later, calls = earlier ++ first :: second :: later →
      ¬(first.proposal.action = .list ∧ second.proposal.action = .list)) ∧
    (state = {} ∨ ∃ call ∈ calls, state = { lastStart := some call.start, repeats := 1 }) := by
  obtain ⟨remembers, follows⟩ := answered.follows
  refine ⟨?_, ?_, remembers.known⟩
  · intro earlier call later divided
    have next := follows earlier call later divided
    exact ⟨next.lists, next.rings⟩
  · intro earlier first second later divided
    have one := follows earlier first (second :: later) divided
    have next := follows (earlier ++ [first]) second later (by simp [divided])
    exact one.not_both_list next

/-- The bell is rung, then nothing is found, and then the words are listed. -/
theorem list_iff_armed_fruitless : ∃ calls state, Answered calls state ∧
    calls.map (·.proposal.action) = [.bell, .bell, .list] ∧
    (∀ earlier call later, calls = earlier ++ call :: later →
      (call.proposal.action = .list ↔ call.Stuck ∧ Armed earlier call.start) ∧
      (call.Stuck → call.proposal.action ≠ .list → call.proposal.action = .bell)) ∧
    (∀ earlier first second later, calls = earlier ++ first :: second :: later →
      ¬(first.proposal.action = .list ∧ second.proposal.action = .list)) ∧
    (state = {} ∨ ∃ call ∈ calls, state = { lastStart := some call.start, repeats := 1 }) := by
  have history := ((Answered.start.proposed "e" ["exit", "echo"]).proposed " e" []).proposed "e "
    ["env", "echo", "env"]
  exact ⟨_, _, history, by cbv, list_iff_armed history⟩

end CompletionCall

end CommandShell
