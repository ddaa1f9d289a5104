import CommandShell.Builtins
import CommandShell.Launch
import CommandShell.Words

/-! Running a command line: a builtin or a program, with one stream possibly sent to a
file. Failures of a single line are reported on the error stream and turned into a
status. -/

namespace CommandShell

def World.prepareTarget (world : World) (target : String) : World × Except Fault Unit :=
  let directory := Path.directoryPart target
  if directory = "" then (world, .ok ()) else world.ensureDirectories directory

/-- Write to the target of a redirection, making the directories around it first. They stay
even if the target is refused. -/
def World.writeTarget (world : World) (redirection : Redirection) (data : Bytes) :
    World × Except Fault Unit :=
  let (made, result) := world.prepareTarget redirection.target
  match result with
  | .error fault => (made, .error fault)
  | .ok () =>
    match made.writeFile redirection.target redirection.mode data with
    | .error fault => (made, .error fault)
    | .ok written => (written, .ok ())

namespace Redirection

/-- What is reported where the system refuses the target. Other faults stay as they are. -/
def refusal (command : String) (redirection : Redirection) : Fault → Fault
  | .system error =>
    .shell (.redirectionWrite command redirection.target error.cause.reason)
  | fault => fault

def record (redirection : Redirection) (data : Bytes) : Log.Record :=
  .debug "redirection" ("wrote " ++ toString data.length ++ " bytes to " ++
    redirection.target ++ " (" ++ redirection.mode.name ++ ")")

end Redirection

/-- Write to the target of a redirection for a command, which is named if that fails. -/
def writeRedirected (command : String) (redirection : Redirection) (data : Bytes) : Action Unit := do
  let (world, result) := (← Action.inspect id).writeTarget redirection data
  Action.setWorld world
  Action.ofExcept (result.mapError (redirection.refusal command))
  Action.log (redirection.record data)

namespace Execution

def statusCannotExecute : Int := 126

def statusNotFound : Int := 127

def statusNotWritten : Int := 1

/-- Find out what a name stands for, along a search path if one is given. -/
def resolveAlong (settings : Settings) (path : Option String) (name : String) :
    Action Resolution := do
  let resolution ← Action.inspect (·.resolve name (settings.searchPath path))
  Action.log (resolution.record name)
  return resolution

def resolveName (settings : Settings) (name : String) : Action Resolution :=
  resolveAlong settings (some settings.path) name

def runBuiltin (builtin : Builtin) (settings : Settings) (arguments : List String) :
    Action Report := do
  let (machine, report) := builtin.run settings arguments (← get)
  set machine
  return report

def launchOf (settings : Settings) (command : CommandLine) (path : String) : Launch :=
  { executable := path, argv := command.argv
    environment := settings.childEnvironment (some settings.environment) }

/-- Run a command and keep its output back. A builtin that ends with a fault loses
what it has written. -/
def runCaptured (settings : Settings) (command : CommandLine) : Action Outcome := do
  match ← resolveName settings command.name with
  | .builtin builtin =>
    let report ← runBuiltin builtin settings command.arguments
    let status ← Action.ofExcept report.result
    return { output := report.output, errors := report.errors, status }
  | .program path => spawn settings.programs (launchOf settings command path) true
  | .notFound name => throw (.shell (.commandNotFound name))

def runInherited (settings : Settings) (command : CommandLine) : Action Int := do
  match ← resolveName settings command.name with
  | .builtin builtin =>
    let report ← runBuiltin builtin settings command.arguments
    Action.write report.output
    Action.writeError report.errors
    Action.ofExcept report.result
  | .program path =>
    let outcome ← spawn settings.programs (launchOf settings command path) false
    return outcome.status
  | .notFound name => throw (.shell (.commandNotFound name))

def forwardedStream (redirection : Redirection) : Stream :=
  match redirection.stream with
  | .output => .error
  | .error => .output

def streamOf (outcome : Outcome) : Stream → Bytes
  | .output => outcome.output
  | .error => outcome.errors

/-- Send one stream to the file and the other one to the user, who gets it even if the
file cannot be written. -/
def deliver (command : CommandLine) (redirection : Redirection) (outcome : Outcome) :
    Action Unit := do
  let forwarded := forwardedStream redirection
  Action.writeTo forwarded (streamOf outcome forwarded)
  writeRedirected command.name redirection (streamOf outcome redirection.stream)

def run (settings : Settings) (command : CommandLine) : Action Int := do
  match command.redirection with
  | none => runInherited settings command
  | some redirection =>
    let outcome ← runCaptured settings command
    deliver command redirection outcome
    return outcome.status

/-- Report a failure of a single line and give it a status. Other faults are no affair
of the line and go on. -/
def recover (command : CommandLine) : Fault → Action Int
  | .shell (.commandNotFound name) => do
    Action.reportLine (ShellError.commandNotFound name).message
    return statusNotFound
  | .shell (.redirectionWrite name target reason) => do
    Action.reportLine (ShellError.redirectionWrite name target reason).message
    return statusNotWritten
  | .system error => do
    Action.log { Log.Record.debug "executor" ("failed to start " ++ command.name) with
      incident := some (.ofSystemError error) }
    Action.reportLine (command.name ++ ": " ++ error.cause.reason)
    return statusCannotExecute
  | fault => throw fault

def rememberStatus (status : Int) : Action Unit :=
  modify fun machine => { machine with lastStatus := status }

/-- Run a command line and remember its status. Without words there is nothing to run,
and nothing is remembered. -/
def execute (settings : Settings) (command : CommandLine) : Action Int := do
  if command.argv.isEmpty then return 0
  let status ← tryCatch (run settings command) (recover command)
  rememberStatus status
  return status

def splitRecord (shown : String) (words : List String) : Log.Record :=
  .debug "tokenizer" ("tokenized " ++ shown ++ " -> " ++ Text.quotedList words)

def wordsOf (settings : Settings) (line : String) : Action (List String) := do
  let words ← Action.ofExcept ((tokenize line settings.config.quoteMode).mapError .shell)
  match Words.openMark line.toList with
  | none => pure ()
  | some mark =>
    Action.log (.debug "tokenizer"
      ("unterminated " ++ mark.text ++ " at end of input, keeping partial token"))
  Action.log (splitRecord (Text.quoted line) words)
  return words

def commandOf (words : List String) : Action CommandLine := do
  let found ← Action.ofExcept ((CommandLine.redirections words).mapError .shell)
  let command ← Action.ofExcept ((CommandLine.ofWords words).mapError .shell)
  match command.redirection with
  | some redirection =>
    if 1 < found.length then
      Action.log (.warning "redirection" (toString found.length ++
        " redirections on one line, only the last (" ++ redirection.target ++ ") is used"))
  | none => pure ()
  return command

def runLine (settings : Settings) (line : String) : Action (Option Int) := do
  let words ← wordsOf settings line
  if words.isEmpty then return none
  let command ← commandOf words
  let status ← execute settings command
  return some status

def statusUsage : Int := 2

/-- Report an error of the shell about a line. Other faults go on. -/
def recoverLine : Fault → Action (Option Int)
  | .shell error => do
    Action.reportLine error.message
    return some statusUsage
  | fault => throw fault

/-- Run a line and report errors about it. A line without words has the status of the
one before. -/
def runOne (settings : Settings) (line : String) : Action Int := do
  match ← tryCatch (runLine settings line) recoverLine with
  | some status =>
    rememberStatus status
    return status
  | none => return (← get).lastStatus

end Execution

end CommandShell
