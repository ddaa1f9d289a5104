import CommandShell.Proofs.CommandNames
import CommandShell.Proofs.CompletionAnswers
import CommandShell.Proofs.LineEffects
import CommandShell.Proofs.LineSurvival
import CommandShell.Proofs.ParallelLines

/-! Lines with tab presses between them. A press logs debug records and shows something on the
output stream, and that is all. So lines do the same without the presses, aside from the log lines
of the presses, and presses depend on the lines between them only through the files and the working
directory. -/

namespace CommandShell

namespace Log

def Record.IsDebug (record : Record) : Prop := ∃ part message, record = .debug part message

namespace Logger

def debugFile? (logger : Logger) : Option Location :=
  match logger.deliver (.debug "completion" "") with
  | .toFile location _ => some location
  | _ => none

/-- Debug records of the shell all go to one place. -/
theorem deliver_debug {logger : Logger} {location : Location} {data : Bytes} {part message : String}
    (delivered : logger.deliver (.debug part message) = .toFile location data) :
    logger.debugFile? = some location := by
  have shell := isOfShell_debug part message
  have own := isOfShell_debug "completion" ""
  have positive : ¬Level.debug ≤ 0 := by decide
  have level : (Record.debug part message).level = Level.debug := rfl
  have same : (Record.debug "completion" "").level = Level.debug := rfl
  simp only [debugFile?, deliver, lastResort, shell, own, level, same, positive, Bool.not_true,
    Bool.false_eq_true, if_false] at delivered ⊢
  split at delivered
  · cases delivered
  next loud =>
  rw [if_neg loud]
  cases handled : logger.handler with
  | none =>
    rw [handled] at delivered
    dsimp only at delivered
    split at delivered <;> cases delivered
  | some handler =>
    rw [handled] at delivered
    dsimp only at delivered ⊢
    split at delivered
    · cases delivered
    next allowed =>
    rw [if_neg allowed]
    cases opened : handler.sink with
    | file place =>
      rw [opened] at delivered
      cases place with
      | some place =>
        cases delivered
        rfl
      | none => cases delivered
    | console =>
      rw [opened] at delivered
      cases delivered
    | nowhere =>
      rw [opened] at delivered
      cases delivered

theorem openFile?_of_debugFile? {logger : Logger} {location : Location}
    (debugged : logger.debugFile? = some location) : logger.openFile? = some location := by
  unfold debugFile? at debugged
  split at debugged
  · next place data delivered =>
    rw [← debugged]
    exact (deliver_toFile delivered).1
  · cases debugged

/-- Whether bytes are other bytes with log lines put in between. -/
inductive Inserted (logger : Logger) : Bytes → Bytes → Prop where
  | nil : Inserted logger [] []
  | data {first second : Bytes} (inserted : Inserted logger first second) (data : Bytes) :
      Inserted logger (first ++ data) (second ++ data)
  | line {first second : Bytes} (inserted : Inserted logger first second) (record : Record) :
      Inserted logger first (second ++ logger.lines [record])

variable {logger : Logger}

theorem Inserted.refl (logger : Logger) (data : Bytes) : logger.Inserted data data :=
  .data .nil data

theorem Inserted.append {first second later more : Bytes} (inserted : logger.Inserted first second)
    (further : logger.Inserted later more) : logger.Inserted (first ++ later) (second ++ more) := by
  induction further with
  | nil => exact inserted.data []
  | data further data ih =>
    rw [← List.append_assoc, ← List.append_assoc]
    exact ih.data data
  | line further record ih =>
    rw [← List.append_assoc]
    exact ih.line record

theorem Inserted.additive (logger : Logger) : Additive logger.Inserted :=
  ⟨.refl logger, fun inserted further => inserted.append further⟩

/-- Whether a file is another one, aside from log lines if it is the file that debug records go
to. -/
def Aside (logger : Logger) (location : Location) (first second : File) : Prop :=
  second = first ∨ logger.debugFile? = some location ∧ logger.Inserted first.bytes second.bytes

theorem Aside.lasting (logger : Logger) : Lasting logger.Aside where
  refl _ _ := .inl rfl
  add := by
    rintro location first second data (rfl | ⟨debugged, inserted⟩)
    · exact .inl rfl
    · refine .inr ⟨debugged, ?_⟩
      rw [File.bytes_add, File.bytes_add]
      exact inserted.data data

theorem Aside.confined (logger : Logger) : Launch.Confined logger.openFile? logger.Aside := by
  rintro location first second (same | ⟨debugged, -⟩)
  · exact .inl same
  · exact .inr (openFile?_of_debugFile? debugged)

theorem Aside.line {location : Location} {first second : File}
    (aside : logger.Aside location first second)
    (debugged : logger.debugFile? = some location) (record : Record) :
    logger.Aside location first (second.add (logger.lines [record])) := by
  refine .inr ⟨debugged, ?_⟩
  rw [File.bytes_add]
  rcases aside with rfl | ⟨-, inserted⟩
  · exact (Inserted.refl logger _).line record
  · exact inserted.line record

end Logger

end Log

structure View.SameBut (location : Location) (one other : View) : Prop where
  entries : ∀ place, Entry.Corresponds (fun first second => second = first ∨ place = location)
    (one.entry? place) (other.entry? place)
  denied : other.denied = one.denied
  directory : other.directory = one.directory

def Programs.Ignores (programs : Programs) (location : Location) (program : StartedProgram) : Prop :=
  ∀ one other captured, View.SameBut location one other →
    programs.conduct program other captured = programs.conduct program one captured

theorem Programs.Ignores.overlook {programs : Programs} {program : StartedProgram}
    {logger : Log.Logger}
    (ignores : ∀ location, logger.debugFile? = some location → programs.Ignores location program) :
    programs.Overlook (World.Alike logger.Aside) program := by
  intro first second captured alike
  have entries := alike.corresponds.files
  cases debugged : logger.debugFile? with
  | some location =>
    refine ignores location debugged _ _ captured ⟨?_, alike.files.denied, alike.directory⟩
    intro place
    refine (entries place).mono ?_
    rintro one other (same | ⟨here, -⟩)
    · exact .inl same
    · exact .inr (Option.some.inj (here.symm.trans debugged))
  | none =>
    -- Without a debug log no file may differ.
    have same : second.view = first.view := by
      have entry (place : Location) : second.files.get? place = first.files.get? place := by
        refine ((entries place).mono ?_).eq
        rintro one other (same | ⟨here, -⟩)
        · exact same
        · cases here.symm.trans debugged
      simp only [World.view, alike.files.denied, alike.directory, funext entry]
    rw [same]

/-- Whether two machines are the same, aside from their consoles and from log lines that only the
second one has. -/
def Machine.AlikeAside (logger : Log.Logger) (lean full : Machine) : Prop :=
  full.logger = logger ∧ Machine.Alike logger.openFile? (World.Alike logger.Aside) lean full

section Records

variable {logger : Log.Logger} {lean full : Machine}

theorem Machine.AlikeAside.refl (distinct : full.world.files.locations.Nodup) :
    Machine.AlikeAside full.logger full full :=
  ⟨rfl, ⟨.refl (Log.Logger.Aside.lasting _) distinct, rfl⟩, rfl, rfl, rfl, rfl⟩

theorem Machine.AlikeAside.emit (alike : Machine.AlikeAside logger lean full) {record : Log.Record}
    (debug : record.IsDebug) : Machine.AlikeAside logger lean (full.emit record) := by
  obtain ⟨part, message, rfl⟩ := debug
  obtain ⟨rfl, machines⟩ := alike
  cases delivered : full.logger.deliver (.debug part message) with
  | dropped =>
    rw [emit_of_dropped delivered]
    exact ⟨rfl, machines⟩
  | toConsole data =>
    rw [emit_of_toConsole delivered]
    exact ⟨rfl, { machines with }⟩
  | toFile location data =>
    have debugged := Log.Logger.deliver_debug delivered
    rw [emit_of_toFile delivered, (Log.Logger.deliver_toFile delivered).2]
    refine ⟨rfl, { machines with world := ⟨?_, machines.world.directory⟩ }⟩
    apply machines.world.files.appendAt_right
    intro first second aside
    exact aside.line debugged _

theorem Machine.AlikeAside.emitAll {records : List Log.Record}
    (alike : Machine.AlikeAside logger lean full) (debug : ∀ record ∈ records, record.IsDebug) :
    Machine.AlikeAside logger lean (full.emitAll records) := by
  induction records generalizing full with
  | nil => exact alike
  | cons record records ih =>
    obtain ⟨first, others⟩ := List.forall_mem_cons.mp debug
    exact ih (alike.emit first) others

end Records

theorem World.programsAlong_debug (world : World) (directories : List String) :
    ∀ record ∈ (world.programsAlong directories).1, record.IsDebug := by
  induction directories with
  | nil =>
    intro record member
    cases member
  | cons directory later ih =>
    unfold World.programsAlong
    split
    · exact ih
    · intro record member
      rcases List.mem_cons.mp member with rfl | member
      · exact ⟨_, _, rfl⟩
      · exact ih record member
    · intro record member
      cases member

theorem World.commandNames_debug (world : World) (path : String) :
    ∀ record ∈ (world.commandNames path).1, record.IsDebug := by
  rw [commandNames_eq]
  exact world.programsAlong_debug _

theorem Completer.records_debug (request : String) (proposal : Proposal) :
    ∀ record ∈ Completer.records request proposal, record.IsDebug := by
  intro record member
  unfold Completer.records at member
  dsimp only at member
  split at member
  · split at member
    · rw [List.mem_singleton.mp member]
      exact ⟨_, _, rfl⟩
    · cases member
  · rw [List.mem_singleton.mp member]
    exact ⟨_, _, rfl⟩
  · cases member

namespace Session

variable {session : Session}

/-- What a press does to a session besides its state of completion: it hands over debug records, and
may show something. -/
structure Pressed (before after : Session) (records : List Log.Record) : Prop where
  settings : after.settings = before.settings
  debug : ∀ record ∈ records, record.IsDebug
  machine : after.machine = before.machine.emitAll records ∨
    ∃ shown, after.machine = { before.machine.emitAll records with
      console := (before.machine.emitAll records).console.write shown }

variable {before after : Session} {records : List Log.Record}

theorem pressed_told (session : Session) (debug : ∀ record ∈ records, record.IsDebug) :
    Pressed session (session.told records) records :=
  ⟨settings_told session records, debug, .inl rfl⟩

theorem Pressed.answered (pressed : Pressed before (before.told records) records)
    (text line : String) (names : List String) :
    Pressed before ((before.told records).answered text line names)
      (records ++ Completer.records text (Completer.propose before.completion text names).1) where
  settings := (settings_answered _ text line names).trans pressed.settings
  debug := by
    intro record member
    rcases List.mem_append.mp member with member | member
    · exact pressed.debug record member
    · exact Completer.records_debug _ _ record member
  machine := by
    refine .inr ⟨Bytes.ofText (Completer.display before.settings.config.prompt line
      (Completer.propose before.completion text names).1), ?_⟩
    rw [Machine.emitAll, List.foldl_append]
    rfl

theorem tab_pressed (session : Session) (text : String) (call : Int) (line : String)
    (position : Int) : ∃ records, Pressed session (session.tab text call line position).2 records := by
  by_cases asks : Asks call line position
  · have debug := session.machine.world.commandNames_debug session.settings.path
    cases offered : (session.machine.world.commandNames session.settings.path).2 with
    | error fault =>
      rw [tab_failed asks offered]
      exact ⟨_, session.pressed_told debug⟩
    | ok names =>
      rw [tab_answered asks offered]
      exact ⟨_, (session.pressed_told debug).answered text line names⟩
  · rw [tab_passed text asks]
    exact ⟨[], rfl, by simp, .inl rfl⟩

/-- Whether all that a press wrote went to the output stream, and nothing else has changed. -/
structure OnlyShows (before after : Session) : Prop where
  settings : after.settings = before.settings
  wrote : ∃ shown, Wrote before.machine after.machine shown []
  stays : Stays before.machine after.machine
  lastStatus : after.machine.lastStatus = before.machine.lastStatus

theorem Pressed.onlyShows (pressed : Pressed before after records) : OnlyShows before after := by
  have logged : before.machine.Logged (before.machine.emitAll records) := ⟨records, rfl⟩
  obtain same | ⟨shown, same⟩ := pressed.machine
  · refine ⟨pressed.settings, ⟨[], ?_⟩, ?_, ?_⟩
    · rw [same]
      exact logged.wrote
    · rw [same]
      exact logged.stays
    · rw [same]
      exact logged.lastStatus
  · refine ⟨pressed.settings, ⟨shown, ?_⟩, ?_, ?_⟩
    · rw [same]
      exact logged.wrote.silent_left (.write _ shown)
    · rw [same]
      exact ⟨logged.stays.running, logged.stays.directory⟩
    · rw [same]
      exact logged.lastStatus

theorem Pressed.aside {logger : Log.Logger} {lean : Machine} (pressed : Pressed before after records)
    (alike : Machine.AlikeAside logger lean before.machine) :
    Machine.AlikeAside logger lean after.machine := by
  have logged := alike.emitAll pressed.debug
  obtain same | ⟨shown, same⟩ := pressed.machine
  · rw [same]
    exact logged
  · rw [same]
    exact ⟨logged.1, { logged.2 with }⟩

end Session

inductive SessionStep where
  | line (text : String)
  | tab (text : String) (call : Int) (line : String) (position : Int)
  deriving DecidableEq, Repr

def SessionStep.isLine : SessionStep → Bool
  | line _ => true
  | tab .. => false

structure LineRun where
  text : String
  before : Session
  status : Int
  after : Session

structure TabRun where
  text : String
  call : Int
  line : String
  position : Int
  before : Session
  answer : Option String
  after : Session

/-- The steps of a session of which none raises, with the lines and the calls among them. -/
inductive Ran : Session → List SessionStep → List LineRun → List TabRun → Session → Prop where
  | nil (session : Session) : Ran session [] [] [] session
  | line {session middle last : Session} {text : String} {status : Int} {steps : List SessionStep}
      {lines : List LineRun} {tabs : List TabRun}
      (returned : session.perform (Execution.runOne session.settings text) = (.ok status, middle))
      (rest : Ran middle steps lines tabs last) :
      Ran session (.line text :: steps) (⟨text, session, status, middle⟩ :: lines) tabs last
  | tab {session middle last : Session} {text line : String} {call position : Int}
      {answer : Option String} {steps : List SessionStep} {lines : List LineRun} {tabs : List TabRun}
      (answered : session.tab text call line position = (.ok answer, middle))
      (rest : Ran middle steps lines tabs last) :
      Ran session (.tab text call line position :: steps) lines
        (⟨text, call, line, position, session, answer, middle⟩ :: tabs) last

namespace LineRun

structure ReadsLog (run : LineRun) (command : CommandLine) : Prop where
  read : Execution.commandOfLine run.before.settings run.text = .ok command
  builtin : Builtin.ofName? command.name = some .cat
  operand : ∃ path ∈ command.arguments, ∃ location file,
    run.before.machine.logger.debugFile? = some location ∧
    run.before.machine.world.find path .entry = .ok (.file location file)

def CopiesLog (run : LineRun) : Prop :=
  ∃ command redirection, run.ReadsLog command ∧ command.redirection = some redirection ∧
    redirection.stream = .output

/-- Whether a program that a line starts does the same whatever is in the file that debug records go
to. -/
def IgnoresLog (run : LineRun) : Prop :=
  ∀ command program log, Execution.commandOfLine run.before.settings run.text = .ok command →
    Execution.Starts run.before.settings command run.before.machine program →
    run.before.machine.logger.debugFile? = some log →
    run.before.settings.programs.Ignores log program

/-- Whether a line did in one session what it did in another one, aside from log lines that only the
other one has. Its output is the very same, unless the line shows such log lines. -/
structure Matches (lean full : LineRun) : Prop where
  text : full.text = lean.text
  status : full.status = lean.status
  wrote : ∃ output more chunks, Adds lean.before.machine lean.after.machine output chunks ∧
    Adds full.before.machine full.after.machine more chunks ∧
    full.before.machine.logger.Inserted output more ∧
    ((∀ command, ¬full.ReadsLog command) → more = output)
  after : Machine.AlikeAside full.before.machine.logger lean.after.machine full.after.machine

end LineRun

section Lines

variable {logger : Log.Logger} {lean full ended finished : Machine} {same : Bytes → Bytes → Prop}
  {settings : Settings} {text path : String} {status : Int}

theorem Machine.find_of_emit {machine : Machine} {record : Log.Record} {goal : WalkGoal}
    {location : Location} {file : File}
    (found : (machine.emit record).world.find path goal = .ok (.file location file)) :
    ∃ kept, machine.world.find path goal = .ok (.file location kept) := by
  cases delivered : machine.logger.deliver record with
  | dropped =>
    rw [emit_of_dropped delivered] at found
    exact ⟨file, found⟩
  | toConsole data =>
    rw [emit_of_toConsole delivered] at found
    exact ⟨file, found⟩
  | toFile place data =>
    rw [emit_of_toFile delivered] at found
    have walked := (machine.world.corresponds_appendAt place data).find path goal
    have still : (machine.world.appendAt place data).find path goal = .ok (.file location file) :=
      found
    rw [still] at walked
    generalize machine.world.find path goal = first at walked
    cases walked with
    | ok holds =>
      cases holds
      exact ⟨_, rfl⟩

/-- Records do not lead a path to another file. -/
theorem Machine.Logged.find {before after : Machine} (logged : before.Logged after)
    {goal : WalkGoal} {location : Location} {file : File}
    (found : after.world.find path goal = .ok (.file location file)) :
    ∃ kept, before.world.find path goal = .ok (.file location kept) := by
  obtain ⟨records, rfl⟩ := logged
  induction records generalizing before with
  | nil => exact ⟨file, found⟩
  | cons record records ih =>
    obtain ⟨kept, earlier⟩ := ih found
    exact before.find_of_emit earlier

theorem runOne_aside (additive : Additive same) (alike : Machine.AlikeAside logger lean full)
    (reads : ∀ command, Execution.commandOfLine settings text = .ok command →
      command.ReadsAlike settings (World.Alike logger.Aside) same lean full)
    (returned : (Execution.runOne settings text).on full = (.ok status, finished)) :
    ∃ ended output more chunks, (Execution.runOne settings text).on lean = (.ok status, ended) ∧
      Machine.AlikeAside logger ended finished ∧ same output more ∧
      Adds lean ended output chunks ∧ Adds full finished more chunks := by
  obtain ⟨kept, machines⟩ := alike
  have indistinct := World.Alike.indistinct (Log.Logger.Aside.lasting logger)
    (Log.Logger.Aside.confined logger)
  obtain ⟨answers, ⟨alike, output, more, chunks, holds, adds, also⟩⟩ :=
    Execution.runOne_parallel indistinct additive machines reads
  rcases ran : (Execution.runOne settings text).on lean with ⟨answer, ended⟩
  rw [ran, returned] at answers alike
  rw [ran] at adds
  rw [returned] at also
  cases answers with
  | ok agrees =>
    subst agrees
    exact ⟨ended, output, more, chunks, rfl, ⟨also.logger.trans kept, alike⟩, holds, adds, also⟩

/-- What a path leads to while nothing but records is logged is what it led to before. -/
theorem readAlike_of_logged {leanLater fullLater : Machine} {first second : Bytes}
    (logged : full.Logged fullLater)
    (worlds : leanLater.world.Alike logger.Aside fullLater.world)
    (read : World.ReadAlike logger.Aside leanLater.world path first second) :
    second = first ∨ (∃ location file, logger.debugFile? = some location ∧
      full.world.find path .entry = .ok (.file location file)) ∧ logger.Inserted first second := by
  obtain ⟨location, one, other, found, aside, rfl, rfl⟩ := read
  rcases aside with rfl | ⟨debugged, inserted⟩
  · exact .inl rfl
  · refine .inr ⟨?_, inserted⟩
    have walked := worlds.corresponds.find path .entry
    rw [found] at walked
    obtain ⟨reached, same, holds⟩ := walked.of_ok
    cases holds
    obtain ⟨kept, earlier⟩ := logged.find same
    exact ⟨location, kept, debugged, earlier⟩

end Lines

namespace LineRun

variable {lean full after : Session} {text : String} {status : Int} {logger : Log.Logger}

/-- A line that does not show the log does the very same, and one that does may do so as long as
that goes to no file. -/
theorem exists_outputs (settings : full.settings = lean.settings)
    (alike : Machine.AlikeAside logger lean.machine full.machine) {finished : Machine}
    (returned : (Execution.runOne full.settings text).on full.machine = (.ok status, finished))
    (uncopied : ¬CopiesLog ⟨text, full, status, after⟩)
    (ignores : IgnoresLog ⟨text, full, status, after⟩) :
    ∃ ended output more chunks,
      (Execution.runOne lean.settings text).on lean.machine = (.ok status, ended) ∧
      Machine.AlikeAside logger ended finished ∧
      (logger.Inserted output more ∧
        ((∀ command, ¬ReadsLog ⟨text, full, status, after⟩ command) → more = output)) ∧
      Adds lean.machine ended output chunks ∧ Adds full.machine finished more chunks := by
  rw [settings] at returned
  have indistinct := World.Alike.indistinct (Log.Logger.Aside.lasting logger)
    (Log.Logger.Aside.confined logger)
  have programs : ∀ command, Execution.commandOfLine lean.settings text = .ok command →
      ∀ program, Execution.Starts lean.settings command lean.machine program →
        lean.settings.programs.Overlook (World.Alike logger.Aside) program := by
    intro command read program starts
    have also := starts.of_alike indistinct alike.2
    rw [← settings] at read also ⊢
    refine Programs.Ignores.overlook fun log debugged => ?_
    rw [← alike.1] at debugged
    exact ignores command program log read also debugged
  by_cases shows : ∃ command, ReadsLog ⟨text, full, status, after⟩ command
  · obtain ⟨command, reads⟩ := shows
    have tolerant : ∀ other, Execution.commandOfLine lean.settings text = .ok other →
        other.ReadsAlike lean.settings (World.Alike logger.Aside) logger.Inserted lean.machine
          full.machine := by
      intro other read
      refine ⟨programs other read, ?_, ?_⟩
      · intro named path member leanLater fullLater _ logged worlds
        refine (worlds.readFile path).mono ?_
        intro first second holds
        rcases readAlike_of_logged logged worlds holds with rfl | ⟨-, inserted⟩
        · exact .refl logger _
        · exact inserted
      · intro redirection redirected output
        rw [← settings] at read
        cases reads.read.symm.trans read
        exact absurd ⟨command, redirection, reads, redirected, output⟩ uncopied
    obtain ⟨ended, output, more, chunks, ran, alike, inserted, adds, also⟩ :=
      runOne_aside (Log.Logger.Inserted.additive logger) alike tolerant returned
    exact ⟨ended, output, more, chunks, ran, alike, ⟨inserted, fun unread => absurd reads (unread _)⟩,
      adds, also⟩
  · have tolerant : ∀ other, Execution.commandOfLine lean.settings text = .ok other →
        other.ReadsAlike lean.settings (World.Alike logger.Aside) (· = ·) lean.machine
          full.machine := by
      intro other read
      refine ⟨programs other read, ?_, fun _ _ _ _ _ same => same⟩
      intro named path member leanLater fullLater _ logged worlds
      refine (worlds.readFile path).mono ?_
      intro first second holds
      rcases readAlike_of_logged logged worlds holds with rfl | ⟨⟨location, file, debugged, found⟩, -⟩
      · rfl
      · rw [← settings] at read
        rw [← alike.1] at debugged
        exact absurd ⟨other, read, named, path, member, location, file, debugged, found⟩ shows
    obtain ⟨ended, output, more, chunks, ran, alike, rfl, adds, also⟩ :=
      runOne_aside .eq alike tolerant returned
    exact ⟨ended, output, output, chunks, ran, alike, ⟨.refl logger _, fun _ => rfl⟩, adds, also⟩

theorem exists_matches (settings : full.settings = lean.settings)
    (alike : Machine.AlikeAside logger lean.machine full.machine)
    (returned : full.perform (Execution.runOne full.settings text) = (.ok status, after))
    (uncopied : ¬CopiesLog ⟨text, full, status, after⟩)
    (ignores : IgnoresLog ⟨text, full, status, after⟩) :
    ∃ other, lean.perform (Execution.runOne lean.settings text) = (.ok status, other) ∧
      after.settings = other.settings ∧ Machine.AlikeAside logger other.machine after.machine ∧
      Matches ⟨text, lean, status, other⟩ ⟨text, full, status, after⟩ := by
  rw [Session.perform_eq] at returned
  obtain ⟨ended, left⟩ := Prod.mk.inj returned
  have ran : (Execution.runOne full.settings text).on full.machine = (.ok status, after.machine) := by
    rw [← left]
    exact Prod.ext ended rfl
  obtain ⟨machine, output, more, chunks, also, still, ⟨inserted, same⟩, adds, others⟩ :=
    exists_outputs settings alike ran uncopied ignores
  refine ⟨{ lean with machine }, ?_, ?_, still, rfl, rfl, ?_, ?_⟩
  · rw [Session.perform_eq, also]
  · rw [← left]
    exact settings
  · rw [← alike.1] at inserted
    exact ⟨output, more, chunks, adds, others, inserted, same⟩
  · rw [← alike.1] at still
    exact still

end LineRun

theorem Ran.without_tabs {full last : Session} {steps : List SessionStep} {lines : List LineRun}
    {tabs : List TabRun} {logger : Log.Logger} (ran : Ran full steps lines tabs last) (lean : Session)
    (settings : full.settings = lean.settings)
    (alike : Machine.AlikeAside logger lean.machine full.machine)
    (uncopied : ∀ run ∈ lines, ¬run.CopiesLog) (ignores : ∀ run ∈ lines, run.IgnoresLog) :
    ∃ others final, Ran lean (steps.filter SessionStep.isLine) others [] final ∧
      List.Forall₂ LineRun.Matches others lines := by
  induction ran generalizing lean with
  | nil session => exact ⟨[], lean, .nil lean, .nil⟩
  | line returned rest ih =>
    obtain ⟨first, later⟩ := List.forall_mem_cons.mp uncopied
    obtain ⟨ignored, further⟩ := List.forall_mem_cons.mp ignores
    obtain ⟨other, performed, kept, still, holds⟩ :=
      LineRun.exists_matches settings alike returned first ignored
    obtain ⟨others, final, ran, matched⟩ := ih other kept still later further
    exact ⟨_, final, .line performed ran, .cons holds matched⟩
  | @tab session middle last text line call position answer steps lines tabs answered rest ih =>
    obtain ⟨records, pressed⟩ := session.tab_pressed text call line position
    rw [answered] at pressed
    exact ih lean (pressed.settings.trans settings) (pressed.aside alike) uncopied ignores

theorem Ran.onlyShows {session last : Session} {steps : List SessionStep} {lines : List LineRun}
    {tabs : List TabRun} (ran : Ran session steps lines tabs last) :
    ∀ run ∈ tabs, Session.OnlyShows run.before run.after := by
  induction ran with
  | nil session => simp
  | line returned rest ih => exact ih
  | @tab session middle last text line call position answer steps lines tabs answered rest ih =>
    obtain ⟨records, pressed⟩ := session.tab_pressed text call line position
    rw [answered] at pressed
    exact List.forall_mem_cons.mpr ⟨pressed.onlyShows, ih⟩

namespace TabRun

/-- Whether two calls are the same call, in worlds with the same names, links and execute bits, and
with the same working directory. -/
structure Meets (one other : TabRun) : Prop where
  text : other.text = one.text
  call : other.call = one.call
  line : other.line = one.line
  position : other.position = one.position
  world : one.before.machine.world.Alike (fun _ _ _ => True) other.before.machine.world

structure Agrees (one other : TabRun) : Prop where
  answer : other.answer = one.answer
  shown : ∃ shown,
    one.after.machine.console.output = one.before.machine.console.output ++ shown ∧
    other.after.machine.console.output = other.before.machine.console.output ++ shown
  completion : other.after.completion = one.after.completion

/-- Calls in a row. Between them the settings and the state of completion stay what they are. -/
inductive Follow (settings : Settings) : CompletionState → List TabRun → CompletionState → Prop where
  | nil (state : CompletionState) : Follow settings state [] state
  | cons {state final : CompletionState} {run : TabRun} {later : List TabRun}
      (same : run.before.settings = settings) (faced : run.before.completion = state)
      (answered : run.before.tab run.text run.call run.line run.position = (.ok run.answer, run.after))
      (rest : Follow settings run.after.completion later final) :
      Follow settings state (run :: later) final

theorem follow_of_ran {session last : Session} {steps : List SessionStep} {lines : List LineRun}
    {tabs : List TabRun} (ran : Ran session steps lines tabs last) :
    Follow session.settings session.completion tabs last.completion := by
  induction ran with
  | nil session => exact .nil _
  | line returned rest ih =>
    rw [Session.perform_eq] at returned
    obtain ⟨-, rfl⟩ := Prod.mk.inj returned
    exact ih
  | @tab session middle last text line call position answer steps lines tabs answered rest ih =>
    obtain ⟨records, pressed⟩ := session.tab_pressed text call line position
    rw [answered] at pressed
    have settings : middle.settings = session.settings := pressed.settings
    rw [settings] at ih
    exact .cons rfl rfl answered ih

theorem Meets.agrees {one other : TabRun} (meets : Meets one other)
    (settings : other.before.settings = one.before.settings)
    (completion : other.before.completion = one.before.completion)
    (answered : one.before.tab one.text one.call one.line one.position = (.ok one.answer, one.after))
    (also : other.before.tab other.text other.call other.line other.position =
      (.ok other.answer, other.after)) : Agrees one other := by
  have faces : Session.Faces one.before other.before := ⟨settings, completion, meets.world⟩
  obtain ⟨answer, left, shown, first, second⟩ :=
    faces.tab one.text one.call one.line one.position
  rw [meets.text, meets.call, meets.line, meets.position] at also
  rw [answered, also] at answer left
  rw [answered] at first
  rw [also] at second
  exact ⟨Except.ok.inj answer, ⟨shown, first, second⟩, left⟩

/-- The induction is over the calls. What carries it is that both runs face each call with the same
state of completion. -/
theorem agrees_of_follow {settings : Settings} {state last final : CompletionState}
    {tabs others : List TabRun} (follow : Follow settings state tabs last)
    (also : Follow settings state others final) (met : List.Forall₂ Meets tabs others) :
    List.Forall₂ Agrees tabs others ∧ final = last := by
  induction met generalizing state with
  | nil =>
    cases follow
    cases also
    exact ⟨.nil, rfl⟩
  | @cons one other tabs others meets met ih =>
    cases follow with
    | cons same faced answered rest =>
      cases also with
      | cons still facing replied more =>
        have agrees := meets.agrees (still.trans same.symm) (facing.trans faced.symm) answered replied
        rw [agrees.completion] at more
        obtain ⟨later, ended⟩ := ih rest more
        exact ⟨.cons agrees later, ended⟩

end TabRun

namespace Session

/-- A call returns where the search path can be given to the system. -/
theorem tab_returns (session : Session) (proper : World.hasNull session.settings.path = false)
    (text : String) (call : Int) (line : String) (position : Int) :
    ∃ answer after, session.tab text call line position = (.ok answer, after) := by
  by_cases asks : Asks call line position
  · obtain ⟨names, offered⟩ := (World.commandNames_ok_iff session.machine.world _).mpr proper
    exact ⟨_, _, tab_answered asks offered⟩
  · exact ⟨_, _, tab_passed text asks⟩

/-- A session does with its lines what it does without the calls between them, log lines aside. So
no line may make a file of the log, whose log lines could not be told from what else is in the file,
and no program may go by what is in the log.
The calls show something and do nothing else, and what they are answered depends on the lines only
through the names of files and the working directory. -/
theorem tabs_undisturbing (session : Session)
    (distinct : session.machine.world.files.locations.Nodup) :
    (∀ steps lines tabs last, Ran session steps lines tabs last →
      (∀ run ∈ lines, ¬run.CopiesLog) → (∀ run ∈ lines, run.IgnoresLog) →
      ∃ others final, Ran session (steps.filter SessionStep.isLine) others [] final ∧
        List.Forall₂ LineRun.Matches others lines) ∧
    (∀ steps lines tabs last, Ran session steps lines tabs last →
      ∀ run ∈ tabs, OnlyShows run.before run.after) ∧
    ∀ steps lines tabs last, Ran session steps lines tabs last →
      ∀ (other : Session) others runs calls final, other.settings = session.settings →
        other.completion = session.completion → Ran other others runs calls final →
        List.Forall₂ TabRun.Meets tabs calls →
        List.Forall₂ TabRun.Agrees tabs calls ∧ final.completion = last.completion := by
  refine ⟨?_, fun _ _ _ _ ran => ran.onlyShows, ?_⟩
  · intro steps lines tabs last ran uncopied ignores
    have itself : Machine.AlikeAside session.machine.logger session.machine session.machine :=
      ⟨rfl, ⟨.refl (Log.Logger.Aside.lasting _) distinct, rfl⟩, rfl, rfl, rfl, rfl⟩
    exact ran.without_tabs session rfl itself uncopied ignores
  · intro steps lines tabs last ran other others runs calls final settings completion also met
    have follow := TabRun.follow_of_ran ran
    have follows := TabRun.follow_of_ran also
    rw [settings, completion] at follows
    exact TabRun.agrees_of_follow follow follows met

def sessionWithDebugLog : Session := ⟨{}, Execution.machineWithDebugLog, {}⟩

/-- The press logs that it finds nothing. -/
theorem tabs_undisturbing_logged :
    sessionWithDebugLog.machine.world.files.locations.Nodup ∧
    ∃ lines tabs last,
      Ran sessionWithDebugLog [.tab "zz" 0 "zz" 0, .line "echo hi"] lines tabs last ∧
      (∃ others final, Ran sessionWithDebugLog [.line "echo hi"] others [] final ∧
        List.Forall₂ LineRun.Matches others lines) ∧
      (∀ run ∈ tabs, OnlyShows run.before run.after) ∧
      List.Forall₂ TabRun.Agrees tabs tabs := by
  have distinct : sessionWithDebugLog.machine.world.files.locations.Nodup := by decide
  have proper : ¬sessionWithDebugLog.settings.HoldsNull := by
    rintro (home | ⟨entry, member, -⟩)
    · exact absurd home (by decide)
    · cases member
  have named : ¬sessionWithDebugLog.settings.Misnames := by
    rintro ⟨entry, member, -⟩
    cases member
  obtain ⟨answer, middle, answered⟩ :=
    sessionWithDebugLog.tab_returns rfl "zz" 0 "zz" 0
  obtain ⟨records, pressed⟩ := sessionWithDebugLog.tab_pressed "zz" 0 "zz" 0
  rw [answered] at pressed
  have kept : middle.settings = sessionWithDebugLog.settings := pressed.settings
  have returns : ∃ status machine, (Execution.runOne middle.settings "echo hi").on middle.machine =
      (.ok status, machine) :=
    Execution.runOne_returns middle.machine (kept ▸ proper) (kept ▸ named) (by decide) (by decide)
  obtain ⟨status, machine, returned⟩ := returns
  have performed := middle.perform_eq (Execution.runOne middle.settings "echo hi")
  rw [returned] at performed
  have ran := Ran.tab answered (.line performed (.nil _))
  have uncopied : ¬LineRun.CopiesLog ⟨"echo hi", middle, status, { middle with machine }⟩ := by
    rintro ⟨command, redirection, reads, -⟩
    have read : Execution.commandOfLine middle.settings "echo hi" = .ok ⟨["echo", "hi"], none⟩ := by
      rw [kept]
      rfl
    cases reads.read.symm.trans read
    exact absurd reads.builtin (by decide)
  have ignores : LineRun.IgnoresLog ⟨"echo hi", middle, status, { middle with machine }⟩ := by
    rintro command program log - - - one other captured -
    dsimp only
    rw [kept]
    rfl
  obtain ⟨alone, shows, answers⟩ := tabs_undisturbing sessionWithDebugLog distinct
  have itself : sessionWithDebugLog.machine.world.Alike (fun _ _ _ => True)
      sessionWithDebugLog.machine.world :=
    ⟨.refl ⟨fun _ _ => trivial, fun _ _ _ _ _ => trivial⟩ distinct, rfl⟩
  have agrees := answers _ _ _ _ ran sessionWithDebugLog _ _ _ _ rfl rfl ran
    (.cons ⟨rfl, rfl, rfl, rfl, itself⟩ .nil)
  exact ⟨distinct, _, _, _, ran, alone _ _ _ _ ran (by simpa using uncopied) (by simpa using ignores), shows _ _ _ _ ran,
    agrees.1⟩

end Session

end CommandShell
