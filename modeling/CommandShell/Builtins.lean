import CommandShell.Machine
import CommandShell.Resolution

/-! The commands that the shell carries out itself. Each yields a report of what it
writes and of how it ends. Operands are dealt with one by one, and what was written
for earlier ones stays when a later one ends the command. -/

namespace CommandShell

/-- What a command writes, and how it ends: with a status, or early with a fault. -/
structure Report where
  output : Bytes := []
  errors : Bytes := []
  result : Except Fault Int := .ok 0

namespace Report

def ofOutput (text : String) (status : Int) : Report :=
  { output := Bytes.ofText text, result := .ok status }

def ofError (text : String) (status : Int) : Report :=
  { errors := Bytes.ofText text, result := .ok status }

def ofFault (fault : Fault) : Report := { result := .error fault }

/-- Two reports in a row. The first status other than zero is the status of both, and
nothing follows a fault. -/
def andThen (first second : Report) : Report :=
  match first.result with
  | .error _ => first
  | .ok status =>
    { output := first.output ++ second.output
      errors := first.errors ++ second.errors
      result := second.result.map fun later => if status = 0 then later else status }

def forEach {α : Type} (operands : List α) (report : α → Report) : Report :=
  operands.foldr (fun operand later => (report operand).andThen later) {}

end Report

namespace Builtin

def clearScreen : String := "\x1b[H\x1b[2J"

def typeReport (world : World) (path name : String) : Report :=
  match world.resolve name path with
  | .builtin _ => .ofOutput (name ++ " is a shell builtin\n") 0
  | .program found => .ofOutput (name ++ " is " ++ found ++ "\n") 0
  | .notFound _ => .ofOutput (name ++ ": not found\n") 1

def catReport (world : World) (path : String) : Report :=
  match world.readFile path with
  | .ok data => { output := data }
  | .error (.system error) => .ofError ("cat: " ++ path ++ ": " ++ error.cause.reason ++ "\n") 1
  | .error fault => .ofFault fault

def pwdReport (world : World) : Report :=
  match world.workingDirectory with
  | .ok directory => .ofOutput (directory ++ "\n") 0
  | .error fault => .ofFault fault

def cdTarget (arguments : List String) : String := arguments.headD "~"

/-- The path of a target. Only the tilde alone stands for the home directory. -/
def cdPath (home target : String) : String := if target = "~" then home else target

/-- The message about a directory that cannot be entered. Other causes than these end
the command. -/
def cdRefusal (target : String) (error : SystemError) : Report :=
  match error.cause with
  | .noSuchEntry | .notDirectory => .ofError ("cd: " ++ target ++ ": No such file or directory\n") 1
  | .accessDenied => .ofError ("cd: " ++ target ++ ": Permission denied\n") 1
  | _ => .ofFault (.system error)

/-- Change the working directory. A directory that has been removed can be entered
again from inside, but its path is then not found. -/
def changeDirectory (home : String) (arguments : List String) (machine : Machine) :
    Machine × Report :=
  let target := cdTarget arguments
  match machine.world.changeDirectory (cdPath home target) with
  | .error (.system error) => (machine, cdRefusal target error)
  | .error fault => (machine, .ofFault fault)
  | .ok world =>
    let moved := { machine with world }
    match world.workingDirectory with
    | .ok directory => (moved.emit (.debug "builtins" ("cwd is now " ++ directory)), {})
    | .error fault => (moved, .ofFault fault)

def perform (builtin : Builtin) (settings : Settings) (arguments : List String)
    (machine : Machine) : Machine × Report :=
  match builtin with
  | .exit => ({ machine with running := false }, {})
  | .echo => (machine, .ofOutput (" ".intercalate arguments ++ "\n") 0)
  | .type =>
    let path := settings.searchPath (some settings.path)
    (machine.emitAll (arguments.map fun name => (machine.world.resolve name path).record name),
      .forEach arguments (typeReport machine.world path))
  | .pwd => (machine, pwdReport machine.world)
  | .cd => changeDirectory settings.home arguments machine
  | .cat => (machine, .forEach arguments (catReport machine.world))
  | .help =>
    (machine, .ofOutput (String.join ((names.mergeSort).map (· ++ "\n"))) 0)
  | .clear => (machine, .ofOutput clearScreen 0)

def record (builtin : Builtin) (arguments : List String) : Log.Record :=
  .debug "builtins" ("builtin " ++ builtin.name ++ " " ++ Text.quotedList arguments)

def run (builtin : Builtin) (settings : Settings) (arguments : List String) (machine : Machine) :
    Machine × Report :=
  builtin.perform settings arguments (machine.emit (builtin.record arguments))

end Builtin

end CommandShell
