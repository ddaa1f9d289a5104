import CommandShell.Proofs.ActionRules
import CommandShell.Proofs.InheritedEnvironment
import CommandShell.Proofs.ProgramLines
import CommandShell.Proofs.SilentLogs
import CommandShell.Proofs.TabPresses

/-! Sessions that keep no log file, beside sessions that log nothing. Taking the log records off the
error stream before a step or after it comes to the same, so the level from which on records are
written cannot be seen anywhere else. -/

namespace CommandShell

namespace Log

theorem Record.IsDebug.isOwn {record : Record} (debug : record.IsDebug) : record.IsOwn := by
  obtain ⟨part, message, rfl⟩ := debug
  exact Record.isOwn_debug part message

namespace Logger

/-- Whether a logger has a destination for its records, and that is no file. -/
def IsUnfiled (logger : Logger) : Prop :=
  ∃ handler, logger.handler = some handler ∧ ∀ location, handler.sink ≠ .file location

variable {logger : Logger} {record : Record}

theorem IsUnfiled.openFile? (unfiled : logger.IsUnfiled) : logger.openFile? = none := by
  obtain ⟨⟨sink, level⟩, handled, away⟩ := unfiled
  unfold Logger.openFile?
  rw [handled]
  cases sink with
  | file location => exact absurd rfl (away location)
  | console => rfl
  | nowhere => rfl

/-- A record of the shell becomes a line on the error stream, or nothing. -/
theorem IsUnfiled.deliver (unfiled : logger.IsUnfiled) (own : record.IsOwn) :
    logger.deliver record = .dropped ∨ logger.deliver record = .toConsole (logger.lines [record]) := by
  obtain ⟨⟨sink, level⟩, handled, away⟩ := unfiled
  unfold Record.IsOwn at own
  simp only [Logger.deliver, own, handled, Bool.not_true, Bool.false_eq_true, if_false]
  split
  · exact .inl rfl
  split
  · exact .inl rfl
  split
  · exact .inl rfl
  cases sink with
  | file location => exact absurd rfl (away location)
  | console => exact .inr (by simp [lines])
  | nowhere => exact .inl rfl

theorem isUnfiled_unfiledLogger (logger : Logger) (config : Config) :
    (Program.unfiledLogger logger config).IsUnfiled := by
  refine ⟨_, rfl, ?_⟩
  intro location
  dsimp only
  split <;> simp

end Logger

end Log

namespace Console

def unlogged (console : Console) : Console :=
  { console with errorChunks := console.errorChunks.filter Chunk.isWritten }

/-- What comes out on the error stream, where nothing is logged, is what is written there. -/
theorem errorBytes_unlogged (console : Console) :
    console.unlogged.errorBytes = console.writtenErrors := by
  obtain ⟨output, chunks⟩ := console
  induction chunks with
  | nil => rfl
  | cons chunk chunks ih =>
    rw [writtenErrors_cons, ← ih]
    cases chunk with
    | written data | inherited data => exact errorBytes_cons output _ _
    | logged data => exact (List.append_nil _).symm

theorem writtenErrors_unlogged (console : Console) :
    console.unlogged.writtenErrors = console.writtenErrors := by
  rw [← errorBytes_unlogged console, ← errorBytes_unlogged console.unlogged]
  simp only [unlogged, List.filter_filter, Bool.and_self]

end Console

namespace Machine

/-- A machine that logs nothing, and has logged nothing. -/
def unlogged (machine : Machine) : Machine :=
  { machine with console := machine.console.unlogged, logger := .silent }

/-- A record leaves no trace but on the error stream. -/
theorem emit_unlogged {machine : Machine} (unfiled : machine.logger.IsUnfiled) {record : Log.Record}
    (own : record.IsOwn) : machine.unlogged.emit record = (machine.emit record).unlogged := by
  have dropped : machine.unlogged.emit record = machine.unlogged :=
    emit_of_dropped (Log.Logger.isSilent_silent record own)
  rw [dropped]
  rcases unfiled.deliver own with delivered | delivered
  · rw [emit_of_dropped delivered]
  · rw [emit_of_toConsole delivered]
    rfl

theorem emitAll_unlogged {machine : Machine} (unfiled : machine.logger.IsUnfiled)
    {records : List Log.Record} (own : ∀ record ∈ records, record.IsOwn) :
    machine.unlogged.emitAll records = (machine.emitAll records).unlogged := by
  induction records generalizing machine with
  | nil => rfl
  | cons record records ih =>
    obtain ⟨first, others⟩ := List.forall_mem_cons.mp own
    have still : (machine.emit record).logger.IsUnfiled := by
      rw [logger_emit]
      exact unfiled
    rw [emitAll, List.foldl_cons, emit_unlogged unfiled first]
    exact ih still others

end Machine

/-- Whether all that came out on the error stream is what was written there, with log lines put in
between. -/
structure LogsApart (before after : Machine) : Prop where
  logger : after.logger = before.logger
  errors : ∃ written said, before.logger.Inserted written said ∧
    after.console.writtenErrors = before.console.writtenErrors ++ written ∧
    after.console.errorBytes = before.console.errorBytes ++ said

namespace LogsApart

variable {first second third : Machine}

theorem of_unchanged (console : second.console = first.console) (logger : second.logger = first.logger) :
    LogsApart first second :=
  ⟨logger, [], [], .nil, by rw [console, List.append_nil], by rw [console, List.append_nil]⟩

theorem refl (machine : Machine) : LogsApart machine machine := of_unchanged rfl rfl

theorem trans (earlier : LogsApart first second) (later : LogsApart second third) :
    LogsApart first third := by
  obtain ⟨logger, written, said, inserted, kept, came⟩ := earlier
  obtain ⟨still, more, further, also, next, follows⟩ := later
  refine ⟨still.trans logger, written ++ more, said ++ further, ?_, ?_, ?_⟩
  · exact inserted.append (logger ▸ also)
  · rw [next, kept, List.append_assoc]
  · rw [follows, came, List.append_assoc]

theorem write (machine : Machine) (data : Bytes) :
    LogsApart machine { machine with console := machine.console.write data } :=
  ⟨rfl, [], [], .nil, (List.append_nil _).symm, (List.append_nil _).symm⟩

theorem writeError (machine : Machine) (data : Bytes) :
    LogsApart machine { machine with console := machine.console.writeError data } :=
  ⟨rfl, data, data, .refl _ _, Console.writtenErrors_writeError _ _, Console.errorBytes_writeError _ _⟩

theorem inherit (machine : Machine) (output errors : Bytes) :
    LogsApart machine { machine with console := machine.console.inherit output errors } :=
  ⟨rfl, errors, errors, .refl _ _, Console.writtenErrors_inherit _ _ _,
    Console.errorBytes_inherit _ _ _⟩

theorem emit {machine : Machine} (unfiled : machine.logger.IsUnfiled) {record : Log.Record}
    (own : record.IsOwn) : LogsApart machine (machine.emit record) := by
  rcases unfiled.deliver own with delivered | delivered
  · rw [Machine.emit_of_dropped delivered]
    exact .refl machine
  · rw [Machine.emit_of_toConsole delivered]
    refine ⟨rfl, [], [] ++ machine.logger.lines [record], .line .nil record, ?_, ?_⟩
    · rw [Console.writtenErrors_log, List.append_nil]
    · rw [Console.errorBytes_log, List.nil_append]

theorem emitAll {machine : Machine} (unfiled : machine.logger.IsUnfiled) {records : List Log.Record}
    (own : ∀ record ∈ records, record.IsOwn) : LogsApart machine (machine.emitAll records) := by
  induction records generalizing machine with
  | nil => exact .refl machine
  | cons record records ih =>
    obtain ⟨first, others⟩ := List.forall_mem_cons.mp own
    have step := emit unfiled first
    exact step.trans (ih (step.logger ▸ unfiled) others)

end LogsApart

/-- Whether a run from a machine comes to the same as one without the log, and has logged nowhere but
on the error stream. -/
structure Erases {α : Type} (machine : Machine) (ran quiet : α × Machine) : Prop where
  quiet : quiet = (ran.1, ran.2.unlogged)
  logs : LogsApart machine ran.2

namespace Erases

variable {α : Type} {machine middle : Machine} {ran quiet : α × Machine}

theorem unchanged (answer : α) (machine : Machine) :
    Erases machine (answer, machine) (answer, machine.unlogged) := ⟨rfl, .refl machine⟩

theorem after_logs (earlier : LogsApart machine middle) (later : Erases middle ran quiet) :
    Erases machine ran quiet := ⟨later.quiet, earlier.trans later.logs⟩

end Erases

namespace Action

variable {α β : Type} {action : Action α} {next : α → Action β}

/-- Whether an action comes to the same where nothing is logged, on every machine that keeps no log
file. -/
def IgnoresLog (action : Action α) : Prop :=
  ∀ machine : Machine, machine.logger.IsUnfiled →
    Erases machine (action.on machine) (action.on machine.unlogged)

namespace IgnoresLog

theorem pure (value : α) : IgnoresLog (Pure.pure value) := fun machine _ => .unchanged _ machine

theorem throw (fault : Fault) : IgnoresLog (MonadExcept.throw fault : Action α) :=
  fun machine _ => .unchanged _ machine

theorem inspect (question : World → α) : IgnoresLog (Action.inspect question) :=
  fun machine _ => .unchanged _ machine

theorem setWorld (world : World) : IgnoresLog (Action.setWorld world) :=
  fun _ _ => ⟨rfl, .of_unchanged rfl rfl⟩

theorem ofExcept (answer : Except Fault α) : IgnoresLog (Action.ofExcept answer) := by
  intro machine _
  rw [on_ofExcept, on_ofExcept]
  exact .unchanged answer machine

theorem write (data : Bytes) : IgnoresLog (Action.write data) :=
  fun machine _ => ⟨rfl, .write machine data⟩

theorem writeError (data : Bytes) : IgnoresLog (Action.writeError data) :=
  fun machine _ => ⟨rfl, .writeError machine data⟩

theorem inherit (output errors : Bytes) : IgnoresLog (Action.inherit output errors) :=
  fun machine _ => ⟨rfl, .inherit machine output errors⟩

theorem rememberStatus (status : Int) : IgnoresLog (Execution.rememberStatus status) :=
  fun _ _ => ⟨rfl, .of_unchanged rfl rfl⟩

theorem log {record : Log.Record} (own : record.IsOwn) : IgnoresLog (Action.log record) := by
  intro machine unfiled
  refine ⟨?_, .emit unfiled own⟩
  rw [on_log, on_log, Machine.emit_unlogged unfiled own]

theorem bind (first : action.IgnoresLog) (later : ∀ value, (next value).IgnoresLog) :
    (action >>= next).IgnoresLog := by
  intro machine unfiled
  obtain ⟨quiet, logs⟩ := first machine unfiled
  rw [on_bind, on_bind, quiet]
  generalize action.on machine = ran at logs ⊢
  obtain ⟨fault | value, after⟩ := ran
  · exact ⟨rfl, logs⟩
  · exact (later value after (logs.logger ▸ unfiled)).after_logs logs

theorem tryCatch {handler : Fault → Action α} (first : action.IgnoresLog)
    (handled : ∀ fault, (handler fault).IgnoresLog) :
    (MonadExcept.tryCatch action handler).IgnoresLog := by
  intro machine unfiled
  obtain ⟨quiet, logs⟩ := first machine unfiled
  rw [on_tryCatch, on_tryCatch, quiet]
  generalize action.on machine = ran at logs ⊢
  obtain ⟨fault | value, after⟩ := ran
  · exact (handled fault after (logs.logger ▸ unfiled)).after_logs logs
  · exact ⟨rfl, logs⟩

/-- What is asked of the machine itself must not depend on its log. -/
theorem get {next : Machine → Action β}
    (same : ∀ machine : Machine, machine.logger.IsUnfiled → next machine.unlogged = next machine)
    (later : ∀ machine, (next machine).IgnoresLog) : (MonadState.get >>= next).IgnoresLog := by
  intro machine unfiled
  have reached := later machine machine unfiled
  rw [on_bind, on_bind, on_get, on_get]
  dsimp only
  rw [same machine unfiled]
  exact reached

end IgnoresLog

end Action

namespace Builtin

variable {machine : Machine}

theorem changeDirectory_unlogged (unfiled : machine.logger.IsUnfiled) (home : String)
    (arguments : List String) :
    let ended := changeDirectory home arguments machine
    changeDirectory home arguments machine.unlogged = (ended.1.unlogged, ended.2) ∧
      LogsApart machine ended.1 := by
  unfold changeDirectory
  simp only [show machine.unlogged.world = machine.world from rfl]
  cases machine.world.changeDirectory (cdPath home (cdTarget arguments)) with
  | error fault => cases fault <;> exact ⟨rfl, .refl machine⟩
  | ok world =>
    have moved : LogsApart machine { machine with world } := .of_unchanged rfl rfl
    dsimp only
    cases world.workingDirectory with
    | error fault => exact ⟨rfl, moved⟩
    | ok directory =>
      have own := Log.Record.isOwn_debug "builtins" ("cwd is now " ++ directory)
      have later : ({ machine with world } : Machine).logger.IsUnfiled := unfiled
      refine ⟨?_, moved.trans (.emit later own)⟩
      dsimp only
      rw [← Machine.emit_unlogged later own]
      rfl

theorem perform_unlogged (unfiled : machine.logger.IsUnfiled) (builtin : Builtin)
    (settings : Settings) (arguments : List String) :
    let ended := builtin.perform settings arguments machine
    builtin.perform settings arguments machine.unlogged = (ended.1.unlogged, ended.2) ∧
      LogsApart machine ended.1 := by
  cases builtin with
  | exit => exact ⟨rfl, .of_unchanged rfl rfl⟩
  | type =>
    have own : ∀ record ∈ arguments.map fun name =>
        (machine.world.resolve name settings.path).record name, record.IsOwn := by
      intro record member
      obtain ⟨name, -, rfl⟩ := List.mem_map.mp member
      exact Log.Record.isOwn_debug _ _
    refine ⟨?_, .emitAll unfiled own⟩
    simp only [perform, Settings.searchPath_some, ← Machine.emitAll_unlogged unfiled own]
    rfl
  | cd => exact changeDirectory_unlogged unfiled _ _
  | echo | pwd | cat | help | clear => exact ⟨rfl, .refl machine⟩

end Builtin

namespace Execution

open CommandShell.Action

variable (settings : Settings)

theorem runBuiltin_unlogged (builtin : Builtin) (arguments : List String) :
    (runBuiltin builtin settings arguments).IgnoresLog := by
  intro machine unfiled
  have own : (builtin.record arguments).IsOwn := Log.Record.isOwn_debug _ _
  have told := LogsApart.emit unfiled own
  obtain ⟨quiet, logs⟩ := Builtin.perform_unlogged (told.logger ▸ unfiled) builtin settings arguments
  refine ⟨?_, told.trans logs⟩
  simp only [runBuiltin, on_bind, on_get, on_set, on_pure, Builtin.run]
  rw [Machine.emit_unlogged unfiled own, quiet]

theorem writeRedirected_unlogged (name : String) (redirection : Redirection) (data : Bytes) :
    (writeRedirected name redirection data).IgnoresLog := by
  apply IgnoresLog.bind (.inspect _)
  intro world
  apply IgnoresLog.bind (.setWorld _)
  intro _
  apply IgnoresLog.bind (.ofExcept _)
  intro _
  exact .log (Log.Record.isOwn_debug _ _)

theorem start_unlogged (launch : Launch) (programs : Programs) (capture : Bool) : IgnoresLog (do
    let machine ← get
    Action.ofExcept (launch.start programs machine.world machine.logger.openFile? capture)) := by
  apply IgnoresLog.get
  · intro machine unfiled
    rw [unfiled.openFile?]
    rfl
  · intro machine
    exact .ofExcept _

/-- A line does the same where nothing is logged. -/
theorem unlogged_rules : Rules @IgnoresLog where
  pure := .pure
  throw := .throw
  bind := .bind
  tryCatch := .tryCatch
  inspect := .inspect
  log := .log
  write := .write
  writeError := .writeError
  inherit := .inherit
  rememberStatus := .rememberStatus
  lastStatus := .get (fun _ _ => rfl) fun _ => .pure _
  start := start_unlogged
  runBuiltin builtin settings arguments := runBuiltin_unlogged settings builtin arguments
  writeRedirected := writeRedirected_unlogged

end Execution

def Observation.unlogged (seen : Observation) : Observation :=
  { seen with machine := seen.machine.unlogged }

namespace Session

def unlogged (session : Session) : Session := { session with machine := session.machine.unlogged }

structure Erases {α : Type} (session : Session) (ran quiet : α × Session) : Prop where
  quiet : quiet = (ran.1, ran.2.unlogged)
  logs : LogsApart session.machine ran.2.machine

variable {session : Session}

theorem told_unlogged (unfiled : session.machine.logger.IsUnfiled) {records : List Log.Record}
    (own : ∀ record ∈ records, record.IsOwn) :
    session.unlogged.told records = (session.told records).unlogged :=
  congrArg (fun machine => { session with machine })
    (Machine.emitAll_unlogged unfiled own)

theorem candidatesOr_unlogged (unfiled : session.machine.logger.IsUnfiled)
    (candidates : Option (List String)) :
    session.Erases (session.candidatesOr candidates) (session.unlogged.candidatesOr candidates) := by
  cases candidates with
  | some given => exact ⟨rfl, .refl _⟩
  | none =>
    have own : ∀ record ∈ (session.machine.world.commandNames session.settings.path).1, record.IsOwn :=
      fun record member => (World.commandNames_debug _ _ record member).isOwn
    simp only [candidatesOr, Settings.searchPath_some, commandNames_eq]
    exact ⟨congrArg (Prod.mk _) (told_unlogged unfiled own), .emitAll unfiled own⟩

theorem complete_unlogged (unfiled : session.machine.logger.IsUnfiled) (request : String)
    (candidates : Option (List String)) :
    session.Erases (session.complete request candidates)
      (session.unlogged.complete request candidates) := by
  obtain ⟨quiet, logs⟩ := candidatesOr_unlogged unfiled candidates
  unfold complete
  rw [quiet]
  generalize session.candidatesOr candidates = offered at logs ⊢
  obtain ⟨fault | names, listed⟩ := offered
  · exact ⟨rfl, logs⟩
  · have still : listed.machine.logger.IsUnfiled := logs.logger ▸ unfiled
    have own : ∀ record ∈ Completer.records request
        (Completer.propose listed.completion request names).1, record.IsOwn :=
      fun record member => (Completer.records_debug _ _ record member).isOwn
    refine ⟨?_, logs.trans (.emitAll still own)⟩
    dsimp only [unlogged]
    rw [Machine.emitAll_unlogged still own]

theorem propose_unlogged (unfiled : session.machine.logger.IsUnfiled) (text line : String)
    (position : Int) :
    session.Erases (session.propose text line position)
      (session.unlogged.propose text line position) := by
  obtain ⟨quiet, logs⟩ := complete_unlogged unfiled text none
  unfold propose
  split
  · exact ⟨rfl, .refl _⟩
  rw [quiet]
  generalize session.complete text none = completed at logs ⊢
  obtain ⟨fault | proposal, answered⟩ := completed
  · exact ⟨rfl, logs⟩
  · exact ⟨rfl, logs.trans (.write _ _)⟩

theorem tab_unlogged (unfiled : session.machine.logger.IsUnfiled) (text : String) (call : Int)
    (line : String) (position : Int) :
    session.Erases (session.tab text call line position)
      (session.unlogged.tab text call line position) := by
  obtain ⟨quiet, logs⟩ := propose_unlogged unfiled text line position
  unfold tab
  split
  · exact ⟨rfl, .refl _⟩
  · rw [quiet]
    exact ⟨rfl, logs⟩

theorem take_unlogged (unfiled : session.machine.logger.IsUnfiled) (step : SessionRequest) :
    session.Erases (session.take step) (session.unlogged.take step) := by
  cases step with
  | line text =>
    obtain ⟨quiet, logs⟩ := Execution.unlogged_rules.runOne session.settings text session.machine unfiled
    refine ⟨?_, logs⟩
    simp only [take, perform_eq]
    rw [show session.unlogged.machine = session.machine.unlogged from rfl,
      show session.unlogged.settings = session.settings from rfl, quiet]
    rfl
  | complete request candidates =>
    obtain ⟨quiet, logs⟩ := complete_unlogged unfiled request candidates
    refine ⟨?_, logs⟩
    simp only [take, quiet]
  | tab text call line position =>
    obtain ⟨quiet, logs⟩ := tab_unlogged unfiled text call line position
    refine ⟨?_, logs⟩
    simp only [take, quiet]

theorem startedBy_unlogged (unfiled : session.machine.logger.IsUnfiled) (step : SessionRequest) :
    session.unlogged.startedBy step = session.startedBy step := by
  cases step with
  | line text =>
    have rules := Execution.unlogged_rules
    have read := (rules.wordsOf session.settings text).bind rules.commandOf
    have world : (Execution.afterReading session.settings text session.machine.unlogged).world =
        (Execution.afterReading session.settings text session.machine).world := by
      rw [Execution.afterReading, (read session.machine unfiled).quiet]
      rfl
    simp only [startedBy, Execution.started?]
    rw [show session.unlogged.machine = session.machine.unlogged from rfl,
      show session.unlogged.settings = session.settings from rfl, world]
  | complete | tab => rfl

theorem observe_unlogged (unfiled : session.machine.logger.IsUnfiled) (step : SessionRequest) :
    session.unlogged.observe step = (session.observe step).unlogged := by
  simp only [observe, (take_unlogged unfiled step).quiet, startedBy_unlogged unfiled]
  rfl

/-- The induction is over the steps. Each leaves a session behind that still keeps no log file. -/
theorem observations_unlogged (unfiled : session.machine.logger.IsUnfiled) (steps : List SessionRequest) :
    session.unlogged.observations steps = (session.observations steps).map Observation.unlogged ∧
      ∀ seen ∈ session.observations steps, LogsApart session.machine seen.machine := by
  induction steps generalizing session with
  | nil => exact ⟨rfl, by simp [observations]⟩
  | cons step later ih =>
    obtain ⟨quiet, logs⟩ := take_unlogged unfiled step
    obtain ⟨same, apart⟩ := ih (logs.logger ▸ unfiled)
    refine ⟨?_, ?_⟩
    · simp only [observations, observe_unlogged unfiled, quiet, same, List.map_cons]
    · intro seen member
      rcases List.mem_cons.mp member with rfl | after
      · exact logs
      · exact logs.trans (apart seen after)

def atLevel (session : Session) (level : Int) : Session :=
  { session with settings :=
      { session.settings with config := { session.settings.config with logLevel := level } } }

theorem take_atLevel (session : Session) (level : Int) (step : SessionRequest) :
    (session.atLevel level).take step =
      ((session.take step).1, (session.take step).2.atLevel level) := by
  have listed (candidates : Option (List String)) : (session.atLevel level).candidatesOr candidates =
      ((session.candidatesOr candidates).1, (session.candidatesOr candidates).2.atLevel level) := by
    cases candidates with
    | some given => rfl
    | none => simp only [candidatesOr, Settings.searchPath_some, commandNames_eq]; rfl
  have completed (request : String) (candidates : Option (List String)) :
      (session.atLevel level).complete request candidates =
        ((session.complete request candidates).1,
          (session.complete request candidates).2.atLevel level) := by
    simp only [complete, listed]
    rcases session.candidatesOr candidates with ⟨fault | names, offered⟩ <;> rfl
  cases step with
  | line text =>
    have agree : session.settings.Agree (session.atLevel level).settings := ⟨rfl, rfl, rfl⟩
    have same := Execution.runOne_congr agree text (fun _ _ _ => rfl) session.machine
    simp only [take, perform_eq]
    rw [show (session.atLevel level).machine = session.machine from rfl, same]
    rfl
  | complete request candidates => simp only [take, completed]
  | tab text call line position =>
    simp only [take, tab, propose, completed]
    split
    · rfl
    split
    · rfl
    rcases session.complete text none with ⟨fault | proposal, answered⟩ <;> rfl

/-- Once the logger is set up, the level in the configuration is not read again. -/
theorem observations_atLevel (session : Session) (level : Int) (steps : List SessionRequest) :
    (session.atLevel level).observations steps = session.observations steps := by
  induction steps generalizing session with
  | nil => rfl
  | cons step later ih =>
    have started : (session.atLevel level).startedBy step = session.startedBy step := by
      cases step with
      | line text => exact Execution.started_congr ⟨rfl, rfl, rfl⟩ text _
      | complete | tab => rfl
    simp only [observations, observe, take_atLevel, started, ih]
    rfl

def setUpLog (session : Session) : Except Fault Unit × Session :=
  let (logger, world, result) :=
    Log.setUp session.machine.logger session.settings.config session.machine.world
  (result, { session with machine := { session.machine with logger, world } })

def readyUnfiled (session : Session) (config : Config) : Session :=
  { session with machine := Program.readyMachine config session.machine }

/-- What is left of a ready session without its log does not depend on how it was set up. -/
theorem observations_readyUnfiled (session : Session) (config : Config) (steps : List SessionRequest) :
    ((session.readyUnfiled config).observations steps).map Observation.unlogged =
      session.unlogged.observations steps :=
  (observations_unlogged (Log.Logger.isUnfiled_unfiledLogger _ _) steps).1.symm

theorem setUpLog_unfiled (unfiled : session.settings.config.logPath? = none) :
    session.setUpLog = (.ok (), session.readyUnfiled session.settings.config) := by
  simp only [setUpLog, Program.setUp_unfiled unfiled]
  rfl

/-- Where no log file is kept, the log level cannot be seen but in the log records on the error
stream. A session of any level does all that a session does that logs nothing: it gives the same
answers, and the output stream, the files and what is captured of commands hold no record. -/
theorem log_level_unseen (session : Session) (level : Int) (steps : List SessionRequest)
    (unfiled : session.settings.config.logPath? = none) :
    ∃ one other, session.setUpLog = (.ok (), one) ∧
      (session.atLevel level).setUpLog = (.ok (), other) ∧
      (other.observations steps).map Observation.unlogged =
        (one.observations steps).map Observation.unlogged ∧
      (one.observations steps).map Observation.unlogged = session.unlogged.observations steps ∧
      (∀ seen ∈ one.observations steps, LogsApart one.machine seen.machine) ∧
      (∀ seen ∈ session.unlogged.observations steps,
        seen.machine.console.errorBytes = seen.machine.console.writtenErrors) ∧
      ∀ command machine, machine.logger = one.machine.logger →
        ((Execution.runCaptured session.settings command).on machine).1 =
          ((Execution.runCaptured session.settings command).on machine.unlogged).1 := by
  let changed : Config := { session.settings.config with logLevel := level }
  have ready := Log.Logger.isUnfiled_unfiledLogger session.machine.logger session.settings.config
  have silent := session.observations_readyUnfiled session.settings.config steps
  have still : (session.atLevel level).settings.config.logPath? = none := unfiled
  refine ⟨_, (session.readyUnfiled changed).atLevel level, setUpLog_unfiled unfiled,
    setUpLog_unfiled still, ?_, silent, ?_, ?_, ?_⟩
  · rw [observations_atLevel, silent, observations_readyUnfiled]
  · exact (observations_unlogged ready steps).2
  · intro seen member
    rw [← silent] at member
    obtain ⟨logging, -, rfl⟩ := List.mem_map.mp member
    exact (Console.errorBytes_unlogged _).trans (Console.writtenErrors_unlogged _).symm
  · intro command machine same
    have unfiled : machine.logger.IsUnfiled := same ▸ ready
    have captured := Execution.unlogged_rules.runCaptured session.settings command machine unfiled
    exact (congrArg Prod.fst captured.quiet).symm

/-- At the level of debug records the line is logged, and what it writes stays what it was. -/
theorem log_level_unseen_debug :
    let steps : List SessionRequest := [.line "echo hi > b", .complete "to" none, .tab "to" 0 "to" 2]
    sessionWithTools.settings.config.logPath? = none ∧
      ∃ one other, sessionWithTools.setUpLog = (.ok (), one) ∧
        (sessionWithTools.atLevel 10).setUpLog = (.ok (), other) ∧
        (other.observations steps).map Observation.unlogged =
          (one.observations steps).map Observation.unlogged ∧
        other.machine.logger.deliver (Builtin.record .echo ["hi"]) =
          .toConsole (other.machine.logger.lines [Builtin.record .echo ["hi"]]) ∧
        one.machine.logger.deliver (Builtin.record .echo ["hi"]) = .dropped := by
  intro steps
  obtain ⟨one, other, ready, also, same, -⟩ := sessionWithTools.log_level_unseen 10 steps rfl
  refine ⟨rfl, one, other, ready, also, same, ?_, ?_⟩
  · cases also
    rfl
  · cases ready
    rfl

end Session

end CommandShell
