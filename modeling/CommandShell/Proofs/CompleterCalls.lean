import CommandShell.LineCompleter
import CommandShell.Proofs.Proposals
import CommandShell.Proofs.TabPresses

/-! Calls of the completer in a row. Each call does what the proposal for it says, whatever was
proposed before, and calls that ask for nothing come between two presses without a trace. So the
first of the calls for a word is the only one that can replace it, and a press that has rung the bell
is still remembered when the word is asked for again. -/

namespace CommandShell

namespace CompleterCall

/-- Whether something other than blanks stands before the word of a call. -/
def BehindWord (call : CompleterCall) : Prop :=
  ∃ char ∈ Completer.before call.line call.position, Text.isBlank char = false

structure Presses (call : CompleterCall) : Prop where
  first : call.index = 0
  command : ¬call.BehindWord

variable {call : CompleterCall}

theorem behindWord_iff : call.BehindWord ↔ Completer.isArgument call.line call.position = true := by
  simp [BehindWord, Completer.isArgument]

theorem presses_iff : call.Presses ↔ Session.Asks call.index call.line call.position := by
  constructor
  · rintro ⟨first, command⟩
    rw [behindWord_iff, Bool.not_eq_true] at command
    exact ⟨first, command⟩
  · rintro ⟨first, command⟩
    rw [← Bool.not_eq_true, ← behindWord_iff] at command
    exact ⟨first, command⟩

end CompleterCall

structure CompleterRun where
  call : CompleterCall
  before : LineCompleter
  answer : Except Fault (Option String)
  after : LineCompleter

namespace CompleterRun

def Proposes (run : CompleterRun) (proposal : Proposal) : Prop :=
  (run.before.session.complete run.call.text none).1 = .ok proposal

def Shows (run : CompleterRun) (data : Bytes) : Prop :=
  run.after.session.machine.console.output = run.before.session.machine.console.output ++ data

def listing (run : CompleterRun) (proposal : Proposal) : Bytes :=
  Bytes.ofText ("\n" ++ "  ".intercalate proposal.matched ++ "\n" ++
    run.before.session.settings.config.prompt ++ run.call.line)

structure Completes (run : CompleterRun) : Prop where
  answer : ∀ text, run.answer = .ok (some text) ↔
    ∃ proposal, run.Proposes proposal ∧ proposal.action = .replace ∧ proposal.text = text
  replaces : ∀ proposal, run.Proposes proposal → proposal.action = .replace → run.Shows []
  rings : ∀ proposal, run.Proposes proposal → proposal.action = .bell → run.Shows [7]
  lists : ∀ proposal, run.Proposes proposal → proposal.action = .list →
    run.Shows (run.listing proposal)
  fails : ∀ fault, (run.before.session.complete run.call.text none).1 = .error fault →
    run.answer = .error fault ∧ run.Shows []
  completion : run.after.session.completion =
    (run.before.session.complete run.call.text none).2.completion

/-- What a call does. Besides what it shows it touches nothing but the state of completion and the
log, and what was proposed before has no part in it. -/
structure Obeys (run : CompleterRun) : Prop where
  tab : run.before.session.tab run.call.text run.call.index run.call.line run.call.position =
    (run.answer, run.after.session)
  later : run.call.index ≠ 0 → run.answer = .ok none ∧ run.after = run.before
  argument : run.call.index = 0 → run.call.BehindWord →
    run.answer = .ok none ∧ run.after.session = run.before.session
  presses : run.call.Presses → run.Completes
  rest : Session.OnlyShows run.before.session run.after.session

def Stuck (run : CompleterRun) : Prop :=
  ∃ candidates, (run.before.session.candidatesOr none).1 = .ok candidates ∧
    Completer.Stuck (Text.strip run.call.text) candidates

/-- Whether a press that is stuck has rung the bell. -/
structure Arms (run : CompleterRun) : Prop where
  presses : run.call.Presses
  stuck : run.Stuck
  rung : ∃ proposal, run.Proposes proposal ∧ proposal.action = .bell

def hasText (run : CompleterRun) : Bool :=
  match run.answer with
  | .ok (some _) => true
  | _ => false

end CompleterRun

/-- Calls of one completer in a row. Between two of them everything about the session may change
but its state of completion. -/
inductive Called : LineCompleter → List CompleterRun → LineCompleter → Prop where
  | nil (completer : LineCompleter) : Called completer [] completer
  | call {first before after last : LineCompleter} {call : CompleterCall}
      {answer : Except Fault (Option String)} {runs : List CompleterRun}
      (kept : before.proposed = first.proposed)
      (remembered : before.session.completion = first.session.completion)
      (answered : before.answer call = (answer, after)) (rest : Called after runs last) :
      Called first (⟨call, before, answer, after⟩ :: runs) last

section Steps

variable {session : Session} {fault : Fault}

theorem Session.candidatesOr_none (session : Session) : (session.candidatesOr none).1 =
    (session.machine.world.commandNames session.settings.path).2 := by
  simp only [candidatesOr, Settings.searchPath_some, commandNames_eq]

theorem Session.complete_refused (session : Session) (request : String)
    (refused : (session.machine.world.commandNames session.settings.path).2 = .error fault) :
    session.complete request none = (.error fault,
      session.told (session.machine.world.commandNames session.settings.path).1) := by
  simp only [complete, candidatesOr, Settings.searchPath_some, commandNames_eq, refused]

namespace CompleterRun

variable {run press bell : CompleterRun} {proposal : Proposal}

theorem Completes.of_proposed (proposed : run.Proposes proposal)
    (replied : run.answer = .ok (Completer.replacement? proposal))
    (shows : run.Shows (Bytes.ofText (Completer.display run.before.session.settings.config.prompt
      run.call.line proposal)))
    (completion : run.after.session.completion =
      (run.before.session.complete run.call.text none).2.completion) : run.Completes := by
  have only : ∀ other, run.Proposes other → other = proposal := fun other also =>
    Except.ok.inj (also.symm.trans proposed)
  have shown {action : CompletionAction} {other : Proposal} (also : run.Proposes other)
      (acts : other.action = action) : proposal.action = action := only other also ▸ acts
  refine ⟨?_, ?_, ?_, ?_, ?_, completion⟩
  · intro text
    rw [replied, Except.ok.injEq]
    constructor
    · intro replaced
      refine ⟨proposal, proposed, ?_⟩
      unfold Completer.replacement? at replaced
      split at replaced
      · next acts => exact ⟨acts, Option.some.inj replaced⟩
      · cases replaced
      · cases replaced
    · rintro ⟨other, also, acts, rfl⟩
      obtain rfl := only other also
      simp only [Completer.replacement?, acts]
  · intro other also acts
    rw [Completer.display, shown also acts] at shows
    exact shows
  · intro other also acts
    have bell : Bytes.ofText "\x07" = [7] := by decide
    rw [Completer.display, shown also acts] at shows
    exact bell ▸ shows
  · intro other also acts
    obtain rfl := only other also
    rw [Completer.display, acts] at shows
    exact shows
  · intro fault refused
    cases refused.symm.trans proposed

theorem Completes.of_refused
    (refused : (run.before.session.complete run.call.text none).1 = .error fault)
    (replied : run.answer = .error fault) (shows : run.Shows [])
    (completion : run.after.session.completion =
      (run.before.session.complete run.call.text none).2.completion) : run.Completes := by
  have none : ∀ proposal, ¬run.Proposes proposal := by
    intro proposal proposed
    cases refused.symm.trans proposed
  refine ⟨?_, ?_, ?_, ?_, ?_, completion⟩
  · intro text
    constructor
    · intro replaced
      cases replied.symm.trans replaced
    · rintro ⟨proposal, proposed, -⟩
      exact absurd proposed (none proposal)
  · exact fun proposal proposed => absurd proposed (none proposal)
  · exact fun proposal proposed => absurd proposed (none proposal)
  · exact fun proposal proposed => absurd proposed (none proposal)
  · intro other also
    obtain rfl := Except.error.inj (also.symm.trans refused)
    exact ⟨replied, shows⟩

theorem tab_eq (answered : run.before.answer run.call = (run.answer, run.after)) :
    run.before.session.tab run.call.text run.call.index run.call.line run.call.position =
      (run.answer, run.after.session) := by
  rw [LineCompleter.answer_eq_tab, answered]

/-- What a press does is settled by the names that there are for it. -/
theorem completes (answered : run.before.answer run.call = (run.answer, run.after))
    (presses : run.call.Presses) : run.Completes := by
  have asks := CompleterCall.presses_iff.mp presses
  have tab := tab_eq answered
  cases offered : (run.before.session.machine.world.commandNames
      run.before.session.settings.path).2 with
  | error fault =>
    have refused := run.before.session.complete_refused run.call.text offered
    rw [Session.tab_failed asks offered] at tab
    obtain ⟨replied, left⟩ := Prod.mk.inj tab
    refine .of_refused (congrArg Prod.fst refused) replied.symm ?_ ?_
    · rw [Shows, ← left, Session.output_told, List.append_nil]
    · rw [← left, refused]
  | ok names =>
    obtain ⟨after, completed, completion⟩ := Session.complete_of_offered run.call.text
      (run.before.session.candidatesOr_none.trans offered)
    rw [Session.tab_answered asks offered] at tab
    obtain ⟨replied, left⟩ := Prod.mk.inj tab
    refine .of_proposed (congrArg Prod.fst completed) replied.symm ?_ ?_
    · rw [Shows, ← left, Session.output_answered]
    · rw [← left, completed, completion]
      rfl

theorem obeys (answered : run.before.answer run.call = (run.answer, run.after)) : run.Obeys where
  tab := tab_eq answered
  later := by
    intro later
    rw [LineCompleter.answer, if_pos later, LineCompleter.reply_later _ later] at answered
    obtain ⟨replied, left⟩ := Prod.mk.inj answered
    exact ⟨replied.symm, left.symm⟩
  argument := by
    intro first behind
    have passed : ¬Session.Asks run.call.index run.call.line run.call.position := by
      intro asks
      exact (CompleterCall.presses_iff.mpr asks).command behind
    have tab := tab_eq answered
    rw [Session.tab_passed _ passed] at tab
    obtain ⟨replied, left⟩ := Prod.mk.inj tab
    exact ⟨replied.symm, left.symm⟩
  presses := completes answered
  rest := by
    obtain ⟨records, pressed⟩ := run.before.session.tab_pressed run.call.text run.call.index
      run.call.line run.call.position
    rw [tab_eq answered] at pressed
    exact pressed.onlyShows

/-- Only a press can have a text for an answer. -/
theorem Obeys.presses_of_hasText (obeys : run.Obeys) (replaces : run.hasText = true) :
    run.call.Presses := by
  unfold hasText at replaces
  refine ⟨?_, ?_⟩
  · by_contra later
    rw [(obeys.later later).1] at replaces
    cases replaces
  · intro behind
    by_cases first : run.call.index = 0
    · rw [(obeys.argument first behind).1] at replaces
      cases replaces
    · rw [(obeys.later first).1] at replaces
      cases replaces

theorem Obeys.completion_of_passed (obeys : run.Obeys) (passed : ¬run.call.Presses) :
    run.after.session.completion = run.before.session.completion := by
  by_cases first : run.call.index = 0
  · by_cases behind : run.call.BehindWord
    · rw [(obeys.argument first behind).2]
    · exact absurd ⟨first, behind⟩ passed
  · rw [(obeys.later first).2]

def Armed (completer : LineCompleter) (start : String) : Prop :=
  completer.session.completion.lastStart = some start ∧ 0 < completer.session.completion.repeats

theorem Arms.armed (arms : bell.Arms)
    (answered : bell.before.answer bell.call = (bell.answer, bell.after)) :
    Armed bell.after (Text.strip bell.call.text) := by
  obtain ⟨presses, ⟨candidates, offered, stuck⟩, proposal, proposed, rung⟩ := arms
  obtain ⟨after, completed, completion⟩ := Session.complete_of_offered bell.call.text offered
  have same : (Completer.propose bell.before.session.completion bell.call.text candidates).1 =
      proposal := by
    rw [Proposes, completed] at proposed
    exact Except.ok.inj proposed
  rw [Armed, (completes answered presses).completion, completed, completion]
  exact Completer.propose_remembers stuck (same ▸ rung)

theorem Stuck.lists (stuck : press.Stuck)
    (armed : Armed press.before (Text.strip press.call.text)) :
    ∃ proposal, press.Proposes proposal ∧ proposal.action = .list := by
  obtain ⟨candidates, offered, stuck⟩ := stuck
  obtain ⟨after, completed, -⟩ := Session.complete_of_offered press.call.text offered
  refine ⟨_, congrArg Prod.fst completed, ?_⟩
  exact (Completer.propose_listed stuck armed.1 armed.2).1

end CompleterRun

end Steps

namespace Called

variable {first last : LineCompleter} {runs earlier later : List CompleterRun}

theorem answered (called : Called first runs last) :
    ∀ run ∈ runs, run.before.answer run.call = (run.answer, run.after) := by
  induction called with
  | nil completer => simp
  | call kept remembered answered rest ih => exact List.forall_mem_cons.mpr ⟨answered, ih⟩

theorem split (called : Called first (earlier ++ later) last) :
    ∃ middle, Called first earlier middle ∧ Called middle later last := by
  induction earlier generalizing first with
  | nil => exact ⟨first, .nil first, called⟩
  | cons run earlier ih =>
    cases called with
    | call kept remembered answered rest =>
      obtain ⟨middle, before, after⟩ := ih rest
      exact ⟨middle, .call kept remembered answered before, after⟩

/-- Calls that ask for nothing leave the state of completion as it was. -/
theorem completion_of_passed (called : Called first runs last)
    (passed : ∀ run ∈ runs, ¬run.call.Presses) :
    last.session.completion = first.session.completion := by
  induction called with
  | nil completer => rfl
  | @call first before after last call answer runs kept remembered answered rest ih =>
    obtain ⟨head, others⟩ := List.forall_mem_cons.mp passed
    have obeys : (⟨call, before, answer, after⟩ : CompleterRun).Obeys := CompleterRun.obeys answered
    exact (ih others).trans ((obeys.completion_of_passed head).trans remembered)

theorem exists_listed {bell press : CompleterRun} {between : List CompleterRun}
    (called : Called first (earlier ++ bell :: (between ++ press :: later)) last)
    (arms : bell.Arms) (passed : ∀ run ∈ between, ¬run.call.Presses) (stuck : press.Stuck)
    (again : Text.strip press.call.text = Text.strip bell.call.text) :
    ∃ proposal, press.Proposes proposal ∧ proposal.action = .list := by
  obtain ⟨middle, -, from_bell⟩ := called.split
  cases from_bell with
  | call kept remembered answered rest =>
    obtain ⟨ready, between_calls, from_press⟩ := rest.split
    have held := between_calls.completion_of_passed passed
    have armed := arms.armed answered
    cases from_press with
    | call kept still replied rest =>
      apply stuck.lists
      rw [CompleterRun.Armed, still, held, again]
      exact armed

/-- What comes of calls in a row, whatever they ask for and in whatever order they come. Each of them
does what belongs to it. A press that is stuck and rings the bell makes the next stuck press for the
same start list, with calls that ask for nothing between them. No stretch of calls has got more texts
than it has first calls, so a word is replaced at most once for each time the editor asks. -/
theorem completer_obeys (called : Called first runs last) :
    (∀ run ∈ runs, run.Obeys) ∧
    (∀ earlier bell between press later, runs = earlier ++ bell :: (between ++ press :: later) →
      bell.Arms → (∀ run ∈ between, ¬run.call.Presses) → press.call.Presses → press.Stuck →
      Text.strip press.call.text = Text.strip bell.call.text →
      ∃ proposal, press.Proposes proposal ∧ proposal.action = .list ∧
        press.Shows (press.listing proposal)) ∧
    ∀ earlier tab later, runs = earlier ++ tab ++ later →
      tab.countP (·.hasText) ≤ tab.countP (·.call.index = 0) := by
  have obeys : ∀ run ∈ runs, run.Obeys := fun run member =>
    CompleterRun.obeys (called.answered run member)
  refine ⟨obeys, ?_, ?_⟩
  · rintro earlier bell between press later rfl arms passed presses stuck again
    obtain ⟨proposal, proposed, listed⟩ := called.exists_listed arms passed stuck again
    have completes := (obeys press (by simp)).presses presses
    exact ⟨proposal, proposed, listed, completes.lists proposal proposed listed⟩
  · rintro earlier tab later rfl
    apply List.countP_mono_left
    intro run member replaces
    have inside : run ∈ earlier ++ tab ++ later := by simp [member]
    exact decide_eq_true ((obeys run inside).presses_of_hasText replaces).first

end Called

section Pressed

def builtinsRun (state : CompletionState) (proposed : Option Proposal) (call : CompleterCall) :
    CompleterRun :=
  let completer : LineCompleter :=
    { session := { settings := {}, machine := { world := ⟨{ owned := [] }, .root⟩ }
                   completion := state }
      proposed }
  ⟨call, completer, (completer.answer call).1, (completer.answer call).2⟩

def CompleterRun.next (run : CompleterRun) (call : CompleterCall) : CompleterRun :=
  builtinsRun run.after.session.completion run.after.proposed call

def pressE : CompleterCall := ⟨"e", 0, "e", 0⟩

theorem pressE_presses : pressE.Presses := by
  refine ⟨rfl, ?_⟩
  rw [CompleterCall.behindWord_iff]
  decide

/-- The builtins that start with this letter share nothing else. -/
theorem stuck_builtins : Completer.Stuck "e" Builtin.names := by
  refine ⟨⟨"exit", by decide, "echo", by decide, by decide, by decide, by decide⟩, ?_⟩
  intro common shared
  have exits : common <+: ['e', 'x', 'i', 't'] := shared "exit" (by decide) (by decide)
  have echoes : common <+: ['e', 'c', 'h', 'o'] := shared "echo" (by decide) (by decide)
  have one : "e".length = 1 := by decide
  match common with
  | [] | [_] => simp [one]
  | first :: second :: rest =>
    rw [List.cons_prefix_cons, List.cons_prefix_cons] at exits echoes
    cases exits.2.1.symm.trans echoes.2.1

theorem stuck_builtinsRun (state : CompletionState) (proposed : Option Proposal) :
    (builtinsRun state proposed pressE).Stuck := by
  refine ⟨Builtin.names, ?_, ?_⟩
  · rw [Session.candidatesOr_none]
    rfl
  · have plain : Text.strip pressE.text = "e" := by decide
    have text : (builtinsRun state proposed pressE).call.text = pressE.text := rfl
    rw [text, plain]
    exact stuck_builtins

theorem arms_builtinsRun : (builtinsRun {} none pressE).Arms := by
  refine ⟨pressE_presses, stuck_builtinsRun _ _, ?_⟩
  obtain ⟨candidates, offered, stuck⟩ := stuck_builtinsRun {} none
  obtain ⟨after, completed, -⟩ := Session.complete_of_offered pressE.text offered
  refine ⟨_, congrArg Prod.fst completed, ?_⟩
  exact (Completer.propose_rung stuck (by simp [builtinsRun])).1

/-- The bell is rung, the editor asks for one more text and for an operand, and then the words are
listed. -/
theorem completer_obeys_between :
    let bell := builtinsRun {} none pressE
    let more := bell.next ⟨"e", 1, "e", 0⟩
    let operand := more.next ⟨"x", 0, "cat x", 4⟩
    let press := operand.next pressE
    Called bell.before [bell, more, operand, press] press.after ∧
      (∀ run ∈ [bell, more, operand, press], run.Obeys) ∧
      (bell.Arms ∧ press.Stuck ∧ ∃ proposal, press.Proposes proposal ∧ proposal.action = .list ∧
        press.Shows (press.listing proposal)) ∧
      [bell, more, operand, press].countP (·.hasText) ≤
        [bell, more, operand, press].countP (·.call.index = 0) := by
  intro bell more operand press
  have called : Called bell.before [bell, more, operand, press] press.after :=
    .call rfl rfl rfl (.call rfl rfl rfl (.call rfl rfl rfl (.call rfl rfl rfl (.nil _))))
  have passed : ∀ run ∈ [more, operand], ¬run.call.Presses := by
    intro run member presses
    simp only [List.mem_cons, List.not_mem_nil, or_false] at member
    rcases member with rfl | rfl
    · exact absurd presses.first (by decide)
    · exact presses.command (CompleterCall.behindWord_iff.mpr (by decide))
  have stuck : press.Stuck := stuck_builtinsRun _ _
  obtain ⟨obeys, lists, replaces⟩ := called.completer_obeys
  exact ⟨called, obeys, ⟨arms_builtinsRun, stuck, lists [] bell [more, operand] press [] rfl
    arms_builtinsRun passed pressE_presses stuck rfl⟩, replaces [] _ [] (by simp)⟩

end Pressed

end CommandShell
