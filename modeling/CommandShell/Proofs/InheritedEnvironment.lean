import CommandShell.Proofs.Attempts
import CommandShell.Proofs.CommandNames
import CommandShell.Proofs.CompletionAnswers
import CommandShell.Proofs.SettingsRead

/-! Sessions apart from the process that they run in. Nothing that can be seen of a session depends
on the variables of the process, unless it goes to a home directory that is not its own. -/

namespace CommandShell

namespace Execution

variable {settings : Settings} {command : CommandLine}

def launch? (settings : Settings) (command : CommandLine) (world : World) : Option Launch :=
  if command.argv.isEmpty then none
  else match world.resolve command.name settings.path with
    | .program path => some (launchOf settings command path)
    | .builtin _ | .notFound _ => none

def started? (settings : Settings) (line : String) (machine : Machine) : Option Launch :=
  match commandOfLine settings line with
  | .ok command => launch? settings command (afterReading settings line machine).world
  | .error _ => none

def afterLookup (settings : Settings) (command : CommandLine) (machine : Machine) : Machine :=
  machine.emit ((machine.world.resolve command.name settings.path).record command.name)

/-- What a command does, seen from the program that it starts. It does what that program does, and
one that starts no program does what a builtin does, or is not found. -/
inductive Attempted (settings : Settings) (command : CommandLine) (capture : Bool)
    (machine : Machine) : Option Launch → Prop where
  | program {launch : Launch}
      (ran : attempt settings command capture machine = attemptProgram settings.programs launch
        command.name capture (afterLookup settings command machine)) :
      Attempted settings command capture machine (some launch)
  | builtin {builtin : Builtin} (resolved : Builtin.ofName? command.name = some builtin)
      (ran : attempt settings command capture machine =
        builtin.run settings command.arguments (afterLookup settings command machine)) :
      Attempted settings command capture machine none
  | notFound
      (ran : attempt settings command capture machine = (afterLookup settings command machine,
        .ofFault (.shell (.commandNotFound command.name)))) :
      Attempted settings command capture machine none

theorem attempted_launch {machine : Machine} (named : command.argv ≠ []) (capture : Bool) :
    Attempted settings command capture machine (launch? settings command machine.world) := by
  have filled : command.argv.isEmpty = false := by simpa using named
  simp only [launch?, filled, Bool.false_eq_true, if_false]
  cases resolved : machine.world.resolve command.name settings.path with
  | program path => exact .program (by simp only [attempt, afterLookup, resolved])
  | builtin builtin =>
    exact .builtin (World.resolve_eq_builtin.mp resolved) (by simp only [attempt, afterLookup, resolved])
  | notFound name =>
    obtain rfl := World.resolve_of_notFound resolved
    exact .notFound (by simp only [attempt, afterLookup, resolved])

theorem attempted_started {line : String} {machine : Machine}
    (read : commandOfLine settings line = .ok command) (named : command.argv ≠ []) (capture : Bool) :
    Attempted settings command capture (afterReading settings line machine)
      (started? settings line machine) := by
  simp only [started?, read]
  exact attempted_launch named capture

theorem launch_environment {world : World} {launch : Launch}
    (launched : launch? settings command world = some launch) :
    launch.environment = settings.environment := by
  unfold launch? at launched
  split at launched
  · cases launched
  split at launched <;> cases launched
  rfl

theorem started_environment {line : String} {machine : Machine} {launch : Launch}
    (started : started? settings line machine = some launch) :
    launch.environment = settings.environment := by
  unfold started? at started
  split at started
  · exact launch_environment started
  · cases started

theorem started_congr {one other : Settings} (agree : one.Agree other) (line : String)
    (machine : Machine) : started? other line machine = started? one line machine := by
  have read : commandOfLine other line = commandOfLine one line := by
    rw [commandOfLine, commandOfLine, agree.quoteMode]
  have ready : afterReading other line machine = afterReading one line machine := by
    rw [afterReading, afterReading, wordsOf_congr agree]
  simp only [started?, launch?, read, ready, agree.path, agree.launchOf]

end Execution

inductive SessionRequest where
  | line (text : String)
  | complete (request : String) (candidates : Option (List String))
  | tab (text : String) (call : Int) (line : String) (position : Int)
  deriving DecidableEq, Repr

inductive StepAnswer where
  | status (answer : Except Fault Int)
  | proposal (answer : Except Fault Proposal)
  | replacement (answer : Except Fault (Option String))

/-- What can be seen of a step: its answer, the program that it starts, and what it leaves behind.
That holds all files, the working directory, and the bytes on both streams. -/
structure Observation where
  answer : StepAnswer
  started : Option Launch
  machine : Machine
  completion : CompletionState

namespace Session

def take (session : Session) : SessionRequest → StepAnswer × Session
  | .line text =>
    let (answer, after) := session.perform (Execution.runOne session.settings text)
    (.status answer, after)
  | .complete request candidates =>
    let (answer, after) := session.complete request candidates
    (.proposal answer, after)
  | .tab text call line position =>
    let (answer, after) := session.tab text call line position
    (.replacement answer, after)

/-- Only lines start programs. -/
def startedBy (session : Session) : SessionRequest → Option Launch
  | .line text => Execution.started? session.settings text session.machine
  | .complete _ _ | .tab _ _ _ _ => none

def observe (session : Session) (step : SessionRequest) : Observation :=
  let (answer, after) := session.take step
  ⟨answer, session.startedBy step, after.machine, after.completion⟩

/-- What can be seen of steps that are taken one after another. A step that ends with a fault ends
only itself. -/
def observations (session : Session) : List SessionRequest → List Observation
  | [] => []
  | step :: later => session.observe step :: (session.take step).2.observations later

def inheriting (session : Session) (environment : Environment) : Session :=
  { session with settings := { session.settings with inherited := environment } }

/-- Whether a step leads to the home directory of the process: it goes to the home directory, and
the session has none of its own. -/
structure LeavesForHome (session : Session) (step : SessionRequest) : Prop where
  homeless : session.settings.environment.nonEmpty? "HOME" = none
  goes : ∃ text command, step = .line text ∧
    Execution.commandOfLine session.settings text = .ok command ∧ command.GoesHome

variable {session : Session} {step : SessionRequest}

theorem inheriting_agree (session : Session) (environment : Environment) :
    session.settings.Agree (session.inheriting environment).settings := ⟨rfl, rfl, rfl⟩

theorem candidatesOr_inheriting (session : Session) (environment : Environment)
    (candidates : Option (List String)) :
    (session.inheriting environment).candidatesOr candidates =
      ((session.candidatesOr candidates).1,
        (session.candidatesOr candidates).2.inheriting environment) := by
  cases candidates with
  | some given => rfl
  | none => simp only [candidatesOr, Settings.searchPath_some, commandNames_eq]; rfl

theorem complete_inheriting (session : Session) (environment : Environment) (request : String)
    (candidates : Option (List String)) :
    (session.inheriting environment).complete request candidates =
      ((session.complete request candidates).1,
        (session.complete request candidates).2.inheriting environment) := by
  simp only [complete, candidatesOr_inheriting]
  rcases session.candidatesOr candidates with ⟨fault | names, offered⟩ <;> rfl

theorem propose_inheriting (session : Session) (environment : Environment) (text line : String)
    (position : Int) :
    (session.inheriting environment).propose text line position =
      ((session.propose text line position).1,
        (session.propose text line position).2.inheriting environment) := by
  simp only [propose, complete_inheriting]
  split
  · rfl
  rcases session.complete text none with ⟨fault | proposal, completed⟩ <;> rfl

theorem tab_inheriting (session : Session) (environment : Environment) (text : String) (call : Int)
    (line : String) (position : Int) :
    (session.inheriting environment).tab text call line position =
      ((session.tab text call line position).1,
        (session.tab text call line position).2.inheriting environment) := by
  simp only [tab, propose_inheriting]
  split <;> rfl

theorem line_inheriting (environment : Environment) {text : String}
    (stays : ¬session.LeavesForHome (.line text)) :
    (session.inheriting environment).take (.line text) =
      ((session.take (.line text)).1, (session.take (.line text)).2.inheriting environment) := by
  have agree := session.inheriting_agree environment
  have home : ∀ command, Execution.commandOfLine session.settings text = .ok command →
      command.GoesHome → (session.inheriting environment).settings.home = session.settings.home := by
    intro command read goes
    cases own : session.settings.environment.nonEmpty? "HOME" with
    | some directory => exact agree.home own
    | none => exact absurd ⟨own, text, command, rfl, read, goes⟩ stays
  have same := Execution.runOne_congr agree text home session.machine
  simp only [take, perform_eq]
  rw [show (session.inheriting environment).machine = session.machine from rfl, same]
  rfl

/-- One step gives the same answer in both processes, and goes on with the same session. -/
theorem take_inheriting (environment : Environment) (stays : ¬session.LeavesForHome step) :
    (session.inheriting environment).take step =
      ((session.take step).1, (session.take step).2.inheriting environment) := by
  cases step with
  | line text => exact line_inheriting environment stays
  | complete request candidates => simp only [take, complete_inheriting]
  | tab text call line position => simp only [take, tab_inheriting]

theorem observe_inheriting (environment : Environment) (stays : ¬session.LeavesForHome step) :
    (session.inheriting environment).observe step = session.observe step := by
  have started : (session.inheriting environment).startedBy step = session.startedBy step := by
    cases step with
    | line text => exact Execution.started_congr (session.inheriting_agree environment) text _
    | complete | tab => rfl
  simp only [observe, take_inheriting environment stays, started]
  rfl

theorem settings_candidatesOr (session : Session) (candidates : Option (List String)) :
    (session.candidatesOr candidates).2.settings = session.settings := by
  cases candidates with
  | some given => rfl
  | none => rw [candidatesOr, commandNames_eq, settings_told]

theorem settings_complete (session : Session) (request : String)
    (candidates : Option (List String)) :
    (session.complete request candidates).2.settings = session.settings := by
  have kept := session.settings_candidatesOr candidates
  unfold complete
  rcases listed : session.candidatesOr candidates with ⟨fault | names, offered⟩ <;>
    rw [listed] at kept <;> exact kept

theorem settings_propose (session : Session) (text line : String) (position : Int) :
    (session.propose text line position).2.settings = session.settings := by
  have kept := session.settings_complete text none
  unfold propose
  split
  · rfl
  rcases asked : session.complete text none with ⟨fault | proposal, completed⟩ <;>
    rw [asked] at kept <;> exact kept

theorem settings_tab (session : Session) (text : String) (call : Int) (line : String)
    (position : Int) : (session.tab text call line position).2.settings = session.settings := by
  unfold tab
  split
  · rfl
  · exact session.settings_propose text line position

/-- No step changes the settings. -/
theorem settings_take (session : Session) (step : SessionRequest) :
    (session.take step).2.settings = session.settings := by
  cases step with
  | line text => rfl
  | complete request candidates => exact session.settings_complete request candidates
  | tab text call line position => exact session.settings_tab text call line position

theorem LeavesForHome.of_take {later : SessionRequest}
    (leaves : (session.take step).2.LeavesForHome later) : session.LeavesForHome later := by
  obtain ⟨homeless, goes⟩ := leaves
  rw [settings_take] at homeless goes
  exact ⟨homeless, goes⟩

/-- The induction is over the steps. Each leaves sessions behind that differ, once more, only in the
variables of their processes. -/
theorem observations_inheriting (environment : Environment) {steps : List SessionRequest}
    (stays : ∀ step ∈ steps, ¬session.LeavesForHome step) :
    (session.inheriting environment).observations steps = session.observations steps := by
  induction steps generalizing session with
  | nil => rfl
  | cons step later ih =>
    obtain ⟨first, others⟩ := List.forall_mem_cons.mp stays
    have goesOn : ∀ next ∈ later, ¬(session.take step).2.LeavesForHome next :=
      fun next member leaves => others next member leaves.of_take
    simp only [observations, observe_inheriting environment first,
      take_inheriting environment first, ih goesOn]

theorem startedBy_environment (session : Session) {step : SessionRequest} {launch : Launch}
    (started : session.startedBy step = some launch) :
    launch.environment = session.settings.environment := by
  cases step with
  | line text => exact Execution.started_environment started
  | complete | tab => cases started

theorem observations_environment {steps : List SessionRequest} {observation : Observation}
    {launch : Launch} (seen : observation ∈ session.observations steps)
    (started : observation.started = some launch) :
    launch.environment = session.settings.environment := by
  induction steps generalizing session with
  | nil => cases seen
  | cons step later ih =>
    rcases List.mem_cons.mp seen with rfl | after
    · exact session.startedBy_environment started
    · rw [ih after, settings_take]

structure SearchesNothing (session : Session) : Prop where
  directories : searchDirectories session.settings.path = []
  names : ∀ machine name, Builtin.ofName? name = none → '/' ∉ name.toList →
    ((Execution.resolveName session.settings name).on machine).1 = .ok (.notFound name)
  candidates : ∀ later : Session, later.settings = session.settings →
    later.candidatesOr none = (.ok Builtin.names, later)

theorem searchesNothing_of_pathless (session : Session)
    (pathless : session.settings.environment.get? "PATH" = none) : session.SearchesNothing := by
  have empty : session.settings.path = "" := by
    rw [Settings.path, Environment.getD, pathless, Option.getD_none]
  have directories : searchDirectories session.settings.path = [] := by
    rw [empty]
    rfl
  refine ⟨directories, ?_, ?_⟩
  · intro machine name foreign bare
    have missing : machine.world.resolve name session.settings.path = .notFound name := by
      simp only [World.resolve, foreign, List.contains_eq_mem, bare, decide_false,
        Bool.false_eq_true, if_false, World.findProgram, directories, World.findAlong,
        List.map_nil, List.find?_nil]
    rw [Execution.on_resolveName, missing]
  · intro later same
    have names : later.machine.world.commandNames later.settings.path = ([], .ok Builtin.names) := by
      rw [World.commandNames_eq, same, directories]
      rfl
    rw [candidatesOr, Settings.searchPath_some, commandNames_eq, names]
    rfl

/-- Whatever the variables of the process are, the same can be seen of a session. The programs that
it starts, by which its commands do what they do, get the variables of the session. Where these have
no search path, no directory is looked into. -/
theorem inherited_unseen (session : Session) (environment : Environment) (steps : List SessionRequest)
    (stays : ∀ step ∈ steps, ¬session.LeavesForHome step) :
    (session.inheriting environment).observations steps = session.observations steps ∧
    (∀ observation ∈ session.observations steps, ∀ launch, observation.started = some launch →
      launch.environment = session.settings.environment) ∧
    (∀ line command machine capture, Execution.commandOfLine session.settings line = .ok command →
      command.argv ≠ [] → Execution.Attempted session.settings command capture
        (Execution.afterReading session.settings line machine)
        (Execution.started? session.settings line machine)) ∧
    (session.settings.environment.get? "PATH" = none → session.SearchesNothing) :=
  ⟨observations_inheriting environment stays,
    fun _ seen _ started => observations_environment seen started,
    fun _ _ _ capture read named => Execution.attempted_started read named capture,
    session.searchesNothing_of_pathless⟩

/-- A session with a home directory of its own goes there, and looks along no path of the process. -/
theorem inherited_unseen_home :
    let session : Session := { sessionWithTools with
      settings := { environment := [("HOME", "a")], inherited := [("HOME", "b"), ("PATH", "a:b")] } }
    let steps : List SessionRequest := [.line "cd", .line "tool", .complete "to" none, .tab "to" 0 "to" 2]
    (∀ step ∈ steps, ¬session.LeavesForHome step) ∧
    (session.inheriting []).observations steps = session.observations steps ∧
    session.SearchesNothing := by
  intro session steps
  have stays : ∀ step ∈ steps, ¬session.LeavesForHome step := by
    rintro step - ⟨homeless, -⟩
    exact absurd homeless (by decide)
  obtain ⟨same, -, -, nothing⟩ := session.inherited_unseen [] steps stays
  exact ⟨stays, same, nothing rfl⟩

end Session

end CommandShell
