import CommandShell.History
import CommandShell.Options
import CommandShell.Session

/-! The shell as a program: options and environment in, one command or a whole session
run, a status out. Errors about the configuration end it before anything is run. -/

namespace CommandShell

inductive ProgramEnd where
  | status (status : Int)
  | options (status : Int)
  | fault (fault : Fault)
  deriving DecidableEq, Repr

structure ProgramResult where
  ending : ProgramEnd
  machine : Machine
  completes : Bool := false

structure ProgramCall where
  arguments : List String
  environment : Environment
  /-- The text on standard input, which is no terminal. -/
  input : String := ""
  /-- Whether the main module runs under the general name of top modules, which takes its
  records out of the shell's own logger. -/
  topLevel : Bool := false
  /-- The home directory of the user's account, if the system knows one. -/
  accountHome : Option String := none
  programs : Programs := {}

namespace Program

def statusUsage : Int := 2

def loggerName (call : ProgramCall) : String :=
  if call.topLevel then "__main__" else Log.Record.shellLogger ++ ".main"

def record (call : ProgramCall) (level : Int) (message : String) : Log.Record :=
  { logger := loggerName call, level, message }

/-- The lines of an input, as a reader without a terminal gets them. A line feed ends a
line; what follows the last one is a line if it is not empty. -/
def inputLines (input : String) : List String :=
  let lines := (Text.fields '\n' input.toList).map String.ofList
  if lines.getLast? = some "" then lines.dropLast else lines

/-- The history as it is when the session starts. A missing file is an empty history. -/
def loadHistory (call : ProgramCall) (config : Config) : Action (List Bytes) := do
  match config.historyPath? with
  | none => return []
  | some path =>
    if !History.fits config.historySize then throw .sizeRange
    match History.read (← Action.inspect id) path with
    | .ok lines => return lines
    | .error (.system error) =>
      if error.cause ≠ .noSuchEntry then
        Action.log (record call Log.Level.warning
          ("could not read history from " ++ path ++ ": " ++ error.message))
      return []
    | .error fault => throw fault

/-- Save the history when the session ends. The path is that of the configuration, taken
from the directory in which the session ends. -/
def saveHistory (call : ProgramCall) (config : Config) (lines : List Bytes) : Action Unit := do
  match config.historyPath? with
  | none => return
  | some path =>
    match History.save (← Action.inspect id) path lines config.historySize with
    | .ok world => Action.setWorld world
    | .error (.system error) =>
      Action.log (record call Log.Level.warning
        ("could not save history to " ++ path ++ ": " ++ error.message))
    | .error fault => throw fault

/-- Run the lines of the input. The prompt goes to the output stream, and the history is
saved however the loop ends. -/
def interact (call : ProgramCall) (settings : Settings) : Action Int := do
  let config := settings.config
  let history ← loadHistory call config
  let directory ← Action.ofExcept (← Action.inspect World.workingDirectory)
  Action.log (record call Log.Level.debug ("starting interactive session in " ++ directory))
  let ask := Action.write (Bytes.ofText config.prompt)
  let events := (inputLines call.input).map InputEvent.line
  let ended ← tryCatch (Except.ok <$> readAndRun settings ask events) (pure ∘ Except.error)
  saveHistory call config history
  match ended with
  | .ok ended => return ended.status
  | .error fault => throw fault

/-- Run the line that an option gives. Where no line is left of the option's value, there
is nothing to run, and the value shows as an empty list. -/
def runCommand (settings : Settings) : OptionValue → Action Int
  | .text line => Execution.runOne settings line
  | .dropped => do
    Action.log (Execution.splitRecord (Text.quotedList []) [])
    return (← get).lastStatus

def finish (machine : Machine) (completes : Bool) (action : Action Int) : ProgramResult :=
  let (result, machine) := action.run.run machine
  { ending := match result with
      | .ok status => .status status
      | .error fault => .fault fault
    machine, completes }

def runWith (call : ProgramCall) (flags : Flags) (machine : Machine) : ProgramResult :=
  match flags.loadConfig call.environment with
  | .error (.shell error) =>
    { ending := .status statusUsage
      machine := { machine with console :=
        machine.console.writeError (Bytes.ofText ("pyshell: " ++ error.message ++ "\n")) } }
  | .error fault => { ending := .fault fault, machine }
  | .ok config =>
    let (logger, world, result) := Log.setUp machine.logger config machine.world
    let ready := { machine with logger, world }
    let settings : Settings :=
      { config, environment := call.environment, inherited := call.environment
        accountHome := call.accountHome, programs := call.programs }
    match result, flags.command with
    | .error fault, _ => { ending := .fault fault, machine := ready }
    | .ok (), some command => finish ready false (runCommand settings command)
    | .ok (), none => finish ready config.completion (interact call settings)

def run (call : ProgramCall) (machine : Machine) : ProgramResult :=
  match Options.parse call.arguments with
  | .error .help =>
    { ending := .options 0
      machine := { machine with console := machine.console.write (Bytes.ofText Options.help) } }
  | .error (.error error) =>
    { ending := .options statusUsage
      machine := { machine with console :=
        machine.console.writeError (Bytes.ofText (Options.refusal error)) } }
  | .ok flags => runWith call flags machine

end Program

end CommandShell
