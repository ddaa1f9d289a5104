import CommandShell.Program
import CommandShell.Proofs.Listings
import CommandShell.Proofs.ReadingLoop
import CommandShell.Proofs.SettingsRead

/-! A line as an option, and as input. Both ways the program sets up the same machine, and the line
does the same on it. Read from the input, it stands between prompts, and does not tell its status. -/

namespace CommandShell

namespace Options

end Options

namespace Flags

end Flags

namespace Console

variable {before after one other : Console} {chunks : List Chunk}

end Console

namespace Program

variable {call : ProgramCall} {settings : Settings} {config : Config} {machine after : Machine}
  {line : String} {status : Int}

theorem finish_returned {action : Action Int} {completes : Bool}
    (returned : action.on machine = (.ok status, after)) :
    finish machine completes action = ⟨.status status, after, completes⟩ := by
  unfold Action.on at returned
  simp only [finish, returned]

theorem finish_failed {action : Action Int} {completes : Bool} {fault : Fault}
    (failed : action.on machine = (.error fault, after)) :
    finish machine completes action = ⟨.fault fault, after, completes⟩ := by
  unfold Action.on at failed
  simp only [finish, failed]

def unfiledLogger (logger : Log.Logger) (config : Config) : Log.Logger :=
  let sink := if config.logLevel < Log.Level.warning then .console else .nowhere
  { logger with
    level := config.logLevel, handler := some ⟨sink, config.logLevel⟩, propagates := false }

theorem setUp_unfiled (unlogged : config.logPath? = none) (logger : Log.Logger) (world : World) :
    Log.setUp logger config world = (unfiledLogger logger config, world, .ok ()) := by
  simp only [Log.setUp, unlogged, unfiledLogger]

def settingsFor (call : ProgramCall) (config : Config) : Settings :=
  { config
    environment := call.environment
    inherited := call.environment
    accountHome := call.accountHome
    programs := call.programs }

def readyMachine (config : Config) (machine : Machine) : Machine :=
  { machine with logger := unfiledLogger machine.logger config }

def runConfigured (call : ProgramCall) (command : Option OptionValue) (config : Config)
    (machine : Machine) : ProgramResult :=
  let (logger, world, result) := Log.setUp machine.logger config machine.world
  let ready := { machine with logger, world }
  match result, command with
  | .error fault, _ => { ending := .fault fault, machine := ready }
  | .ok (), some value => finish ready false (runCommand (settingsFor call config) value)
  | .ok (), none => finish ready config.completion (interact call (settingsFor call config))

theorem runWith_loaded {flags : Flags} (loaded : flags.loadConfig call.environment = .ok config)
    (machine : Machine) : runWith call flags machine = runConfigured call flags.command config machine := by
  simp only [runWith, loaded]
  rfl

def loop (call : ProgramCall) (settings : Settings) (directory : String) (machine : Machine) :
    Except Fault LoopEnd × Machine :=
  (readAndRun settings (Action.write (Bytes.ofText settings.config.prompt))
    ((inputLines call.input).map .line)).on
    (machine.emit (record call Log.Level.debug ("starting interactive session in " ++ directory)))

/-- A session is the loop between the loading of its history and the saving, which comes however the
loop ends. -/
theorem interact_looped {directory : String} {history : List Bytes} {outcome : Except Fault LoopEnd}
    {ended : Machine} (loaded : (loadHistory call settings.config).on machine = (.ok history, machine))
    (live : machine.world.workingDirectory = .ok directory)
    (looped : loop call settings directory machine = (outcome, ended))
    (saved : (saveHistory call settings.config history).on ended = (.ok (), after)) :
    (interact call settings).on machine = (outcome.map LoopEnd.status, after) := by
  unfold loop at looped
  simp only [interact, Action.on_bind, loaded, Action.on_inspect, live, Action.on_ofExcept,
    Action.on_log, Action.on_tryCatch, Action.on_map, looped]
  cases outcome with
  | error fault =>
    simp only [Function.comp_apply, Action.on_pure, saved]
    rfl
  | ok loopEnd =>
    simp only [Action.on_pure, saved]
    rfl

/-- A session has no start in a directory that has been removed. -/
theorem interact_removed {history : List Bytes} {fault : Fault}
    (loaded : (loadHistory call settings.config).on machine = (.ok history, machine))
    (removed : machine.world.workingDirectory = .error fault) :
    (interact call settings).on machine = (.error fault, machine) := by
  simp only [interact, Action.on_bind, loaded, Action.on_inspect, Action.on_ofExcept, removed]

section Runs

variable {environment : Environment} {topLevel : Bool}

end Runs

end Program

end CommandShell
