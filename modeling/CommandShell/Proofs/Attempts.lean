import CommandShell.Proofs.Actions
import CommandShell.Proofs.Lookups
import CommandShell.Proofs.Outlets
import CommandShell.Proofs.ProgramStart

/-! Commands apart from their streams. What a command does is settled before it is settled
where its bytes go, so a run that keeps them back and one that passes them on do the same. -/

namespace CommandShell

def Outcome.report (outcome : Outcome) : Report := ⟨outcome.output, outcome.errors, .ok outcome.status⟩

theorem Report.of_completed {report : Report} {status : Int} (completed : report.result = .ok status) :
    ∃ outcome : Outcome, report = outcome.report := by
  obtain ⟨output, errors, result⟩ := report
  obtain rfl : result = .ok status := completed
  exact ⟨⟨output, errors, status⟩, rfl⟩

/-- What is kept back of a command. Nothing is, where it ends with a fault. -/
def Report.captured (report : Report) : Except Fault Outcome :=
  report.result.map fun status => ⟨report.output, report.errors, status⟩

/-- Whether a machine is another one with bytes on its streams, which came out at one outlet. -/
structure Shows (place : Outlet) (done after : Machine) (report : Report) : Prop where
  wrote : WroteOn place done after report.output report.errors
  world : after.world = done.world
  running : after.running = done.running
  lastStatus : after.lastStatus = done.lastStatus

variable {place : Outlet}

theorem Shows.stays {done after : Machine} {report : Report} (shows : Shows place done after report) :
    Stays done after := ⟨shows.running, congrArg World.directory shows.world⟩

theorem Shows.write (done : Machine) (report : Report) : Shows .session done
    { done with console := (done.console.write report.output).writeError report.errors } report where
  wrote := {
    toWrote := by
      simpa using (Wrote.write done report.output).trans (Wrote.writeError _ report.errors)
    outlet := .write _ _ _ }
  world := rfl
  running := rfl
  lastStatus := rfl

theorem Shows.inherit (done : Machine) (outcome : Outcome) : Shows .process done
    { done with console := done.console.inherit outcome.output outcome.errors } outcome.report where
  wrote := {
    output := Console.output_inherit _ _ _
    errors := Console.writtenErrors_inherit _ _ _
    logger := rfl
    files := .refl _
    outlet := .inherit _ _ _ }
  world := rfl
  running := rfl
  lastStatus := rfl

theorem Shows.nothing (place : Outlet) (done : Machine) (fault : Fault) :
    Shows place done done (.ofFault fault) :=
  ⟨(Machine.Logged.refl done).wroteOn place, rfl, rfl, rfl⟩

/-- A record may be handed over before or after the bytes are written. -/
theorem Shows.emit {done after : Machine} {report : Report} (shows : Shows place done after report)
    (record : Log.Record) : Shows place (done.emit record) (after.emit record) report := by
  have logger : after.logger = done.logger := shows.wrote.logger
  have world : (after.emit record).world = (done.emit record).world := by
    simp only [Machine.emit, logger]
    cases done.logger.deliver record <;> simp only [shows.world]
  have wrote : Wrote done (after.emit record) report.output report.errors :=
    shows.wrote.toWrote.silent_right (after.emit_wrote record)
  exact {
    wrote := {
      output := by rw [wrote.output, (done.emit_wrote record).output, List.append_nil]
      errors := by rw [wrote.errors, (done.emit_wrote record).errors, List.append_nil]
      logger := by rw [wrote.logger, Machine.logger_emit]
      files := by rw [world]; exact .refl _
      outlet := by
        intro apart outlet stream
        rw [Quiet.emit after record, Quiet.emit done record, shows.wrote.outlet] }
    world
    running := by
      rw [(after.emit_stays record).running, (done.emit_stays record).running, shows.running]
    lastStatus := by rw [Machine.lastStatus_emit, Machine.lastStatus_emit, shows.lastStatus] }

theorem World.changeDirectory_files {world after : World} {path : String}
    (entered : world.changeDirectory path = .ok after) : after.files = world.files := by
  unfold changeDirectory requestToOpen request at entered
  split at entered
  · cases entered
  split at entered
  · cases entered
  split at entered <;> cases entered
  rfl

namespace Builtin

/-- All that a builtin does to the machine besides handing records over: `exit` ends the session,
and `cd` may move it. Everything else is told by the report. -/
structure Turns (builtin : Builtin) (before after : Machine) : Prop where
  console : after.console = before.console
  logger : after.logger = before.logger
  files : after.world.files = before.world.files
  running : after.running = (before.running && builtin != .exit)
  directory : builtin ≠ .cd → after.world.directory = before.world.directory

theorem Turns.refl {builtin : Builtin} (stays : builtin ≠ .exit) (machine : Machine) :
    builtin.Turns machine machine :=
  ⟨rfl, rfl, rfl, by simp [stays], fun _ => rfl⟩

theorem changeDirectory_turns (home : String) (arguments : List String) (machine : Machine) :
    ∃ turned records, (∀ record ∈ records, record.IsOwn) ∧ cd.Turns machine turned ∧
      (changeDirectory home arguments machine).1 = turned.emitAll records := by
  have stays : cd.Turns machine machine := .refl (by decide) machine
  unfold changeDirectory
  dsimp only
  split
  · exact ⟨machine, [], by simp, stays, rfl⟩
  · exact ⟨machine, [], by simp, stays, rfl⟩
  next world entered =>
  have moves : cd.Turns machine { machine with world } :=
    { stays with
      files := World.changeDirectory_files entered
      directory := fun other => absurd rfl other }
  split
  · next directory told =>
    refine ⟨_, [.debug "builtins" ("cwd is now " ++ directory)], ?_, moves, rfl⟩
    exact List.forall_mem_singleton.mpr (Log.Record.isOwn_debug _ _)
  · exact ⟨_, [], by simp, moves, rfl⟩

theorem perform_turns (builtin : Builtin) (settings : Settings) (arguments : List String)
    (machine : Machine) :
    ∃ turned records, (∀ record ∈ records, record.IsOwn) ∧ builtin.Turns machine turned ∧
      (builtin.perform settings arguments machine).1 = turned.emitAll records := by
  cases builtin with
  | type =>
    refine ⟨machine, _, ?_, .refl (by decide) machine, rfl⟩
    intro record member
    obtain ⟨name, -, rfl⟩ := List.mem_map.mp member
    exact Log.Record.isOwn_debug _ _
  | cd => exact changeDirectory_turns _ _ _
  | exit =>
    exact ⟨{ machine with running := false }, [], by simp,
      ⟨rfl, rfl, rfl, (Bool.and_false _).symm, fun _ => rfl⟩, rfl⟩
  | echo | pwd | cat | help | clear =>
    exact ⟨machine, [], by simp, .refl (by decide) machine, rfl⟩

theorem run_turns (builtin : Builtin) (settings : Settings) (arguments : List String)
    (machine : Machine) :
    ∃ turned records, (∀ record ∈ records, record.IsOwn) ∧
      builtin.Turns (machine.emit (builtin.record arguments)) turned ∧
      (builtin.run settings arguments machine).1 = turned.emitAll records :=
  builtin.perform_turns settings arguments _

/-- No builtin writes anything by itself, and none changes a file. -/
theorem run_wroteOn (place : Outlet) (builtin : Builtin) (settings : Settings)
    (arguments : List String) (machine : Machine) :
    WroteOn place machine (builtin.run settings arguments machine).1 [] [] := by
  obtain ⟨turned, records, -, turns, ended⟩ := builtin.run_turns settings arguments machine
  have told : machine.Logged (machine.emit (builtin.record arguments)) := .emit _ _
  have quiet : Quiet (machine.emit (builtin.record arguments)) turned := .of_console turns.console
  have still : WroteOn place (machine.emit (builtin.record arguments)) turned [] [] :=
    ⟨.of_unchanged turns.console turns.logger turns.files, quiet.wroteAt_nothing place⟩
  have logged : turned.Logged (turned.emitAll records) := ⟨records, rfl⟩
  rw [ended]
  exact ((told.wroteOn place).silent_left still).silent_left (logged.wroteOn place)

end Builtin

namespace Execution

/-- A program apart from its streams: the machine that it leaves behind, and what it has to
write. -/
def attemptProgram (programs : Programs) (launch : Launch) (name : String) (capture : Bool)
    (machine : Machine) : Machine × Report :=
  let spawned := machine.emit (launch.record capture)
  match launch.start programs spawned.world spawned.logger.openFile? capture with
  | .error fault => (spawned, .ofFault fault)
  | .ok outcome => (spawned.emit (outcome.record name), outcome.report)

def attempt (settings : Settings) (command : CommandLine) (capture : Bool) (machine : Machine) :
    Machine × Report :=
  let resolution := machine.world.resolve command.name settings.path
  let resolved := machine.emit (resolution.record command.name)
  match resolution with
  | .builtin builtin => builtin.run settings command.arguments resolved
  | .program path =>
    attemptProgram settings.programs (launchOf settings command path) command.name capture resolved
  | .notFound name => (resolved, .ofFault (.shell (.commandNotFound name)))

/-- Where a command that is run directly writes. -/
def outletOf (settings : Settings) (command : CommandLine) (machine : Machine) : Outlet :=
  match machine.world.resolve command.name settings.path with
  | .program _ => .process
  | .builtin _ | .notFound _ => .session

section Runs

variable (settings : Settings) (command : CommandLine) (machine : Machine)

theorem runCaptured_eq (named : command.argv ≠ []) :
    (runCaptured settings command).on machine =
      ((attempt settings command true machine).2.captured,
        (attempt settings command true machine).1) := by
  obtain ⟨argv, redirection⟩ := command
  obtain ⟨name, arguments, rfl⟩ := List.exists_cons_of_ne_nil named
  simp only [runCaptured, on_resolveName, Action.on_bind, attempt]
  cases machine.world.resolve (CommandLine.name ⟨name :: arguments, redirection⟩) settings.path with
  | builtin builtin =>
    simp only [runBuiltin, Action.on_bind, Action.on_get, Action.on_set, Action.on_pure,
      Action.on_ofExcept]
    cases ended : (builtin.run settings _ _).2.result <;> simp [Report.captured, ended, Except.map]
  | notFound missing => rfl
  | program path =>
    simp only [spawn, Action.on_bind, Action.on_log, Action.on_get, Action.on_ofExcept, attemptProgram]
    cases (launchOf settings _ path).start _ _ _ _ <;> rfl

theorem runInherited_eq (named : command.argv ≠ []) :
    ∃ after, (runInherited settings command).on machine =
        ((attempt settings command false machine).2.result, after) ∧
      Shows (outletOf settings command machine) (attempt settings command false machine).1 after
        (attempt settings command false machine).2 := by
  obtain ⟨argv, redirection⟩ := command
  obtain ⟨name, arguments, rfl⟩ := List.exists_cons_of_ne_nil named
  simp only [runInherited, on_resolveName, Action.on_bind, attempt, outletOf]
  cases machine.world.resolve (CommandLine.name ⟨name :: arguments, redirection⟩) settings.path with
  | builtin builtin =>
    simp only [runBuiltin, Action.on_bind, Action.on_get, Action.on_set, Action.on_pure,
      Action.on_ofExcept, Action.on_write, Action.on_writeError]
    exact ⟨_, rfl, .write _ _⟩
  | notFound missing => exact ⟨_, rfl, .nothing _ _ _⟩
  | program path =>
    simp only [spawn, Action.on_bind, Action.on_log, Action.on_get, Action.on_ofExcept, attemptProgram]
    cases (launchOf settings _ path).start _ _ _ _ with
    | error fault => exact ⟨_, rfl, .nothing _ _ _⟩
    | ok outcome => exact ⟨_, rfl, (Shows.inherit _ outcome).emit _⟩

end Runs

variable {settings : Settings} {command : CommandLine} {machine : Machine}

theorem attemptProgram_stays (programs : Programs) (launch : Launch) (name : String)
    (capture : Bool) (machine : Machine) :
    Stays machine (attemptProgram programs launch name capture machine).1 := by
  unfold attemptProgram
  dsimp only
  split
  · exact machine.emit_stays _
  · exact (machine.emit_stays _).trans (Machine.emit_stays _ _)

/-- A program that is not started writes nothing, so what a command has written when it fails is on
the streams of the session. -/
theorem shows_of_failed {capture : Bool} {after done : Machine} {fault : Fault}
    (shows : Shows (outletOf settings command machine) done after
      (attempt settings command capture machine).2)
    (failed : (attempt settings command capture machine).2.result = .error fault) :
    Shows .session done after (attempt settings command capture machine).2 := by
  unfold outletOf attempt at *
  cases resolved : machine.world.resolve command.name settings.path with
  | builtin builtin =>
    rw [resolved] at shows
    exact shows
  | notFound name =>
    rw [resolved] at shows
    exact shows
  | program path =>
    simp only [resolved] at shows failed ⊢
    have silent : ∃ fault, (attemptProgram settings.programs (launchOf settings command path)
        command.name capture (machine.emit ((Resolution.program path).record command.name))).2 =
        .ofFault fault := by
      unfold attemptProgram at failed ⊢
      dsimp only at failed ⊢
      split
      · exact ⟨_, rfl⟩
      · next outcome started =>
        rw [started] at failed
        cases failed
    obtain ⟨other, same⟩ := silent
    rw [same] at shows ⊢
    have quiet := shows.wrote.outlet.quiet_of_nothing
    exact { shows with wrote := ⟨shows.wrote.toWrote, quiet.wroteAt_nothing _⟩ }

/-- A command by itself writes nothing and changes no file. -/
theorem attempt_wroteOn (place : Outlet) (settings : Settings) (command : CommandLine)
    (capture : Bool) (machine : Machine) :
    WroteOn place machine (attempt settings command capture machine).1 [] [] := by
  have told : machine.Logged (machine.emit
      ((machine.world.resolve command.name settings.path).record command.name)) := .emit _ _
  refine (told.wroteOn place).silent_left ?_
  unfold attempt attemptProgram
  cases machine.world.resolve command.name settings.path with
  | builtin builtin => exact builtin.run_wroteOn place _ _ _
  | notFound name => exact (Machine.Logged.refl _).wroteOn place
  | program path =>
    dsimp only
    split
    · exact (Machine.Logged.emit _ _).wroteOn place
    · exact ((Machine.Logged.emit _ _).trans (.emit _ _)).wroteOn place

end Execution

end CommandShell
