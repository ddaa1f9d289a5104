import CommandShell.Console
import CommandShell.Log.Logger
import CommandShell.Programs
import CommandShell.Redirection

/-! All that running a line can change, and actions on it. An action that ends with a
fault keeps the changes it has made. Settings are not part of the state, so no line
can change them. -/

namespace CommandShell

structure Settings where
  config : Config := {}
  /-- The variables that the session hands to programs. -/
  environment : Environment := []
  /-- The variables of the process that runs the session. -/
  inherited : Environment := []
  /-- The home directory of the user's account, if the system knows one. -/
  accountHome : Option String := none
  programs : Programs := {}

namespace Settings

def path (settings : Settings) : String := settings.environment.getD "PATH"

/-- The search path of a request. One that gives none has that of the process. -/
def searchPath (settings : Settings) (given : Option String) : String :=
  given.getD (settings.inherited.getD "PATH")

/-- The variables of a program to start. Where none are given, it gets those of the process. -/
def childEnvironment (settings : Settings) (given : Option Environment) : Environment :=
  given.getD settings.inherited

@[simp]
theorem searchPath_some (settings : Settings) (path : String) :
    settings.searchPath (some path) = path := rfl

@[simp]
theorem childEnvironment_some (settings : Settings) (environment : Environment) :
    settings.childEnvironment (some environment) = environment := rfl

/-- The home directory that the process has, without slashes at its end. Where none is known,
the tilde stays as it is. -/
def inheritedHome (settings : Settings) : String :=
  match settings.inherited.get? "HOME" <|> settings.accountHome with
  | none => "~"
  | some home =>
    let bare := String.ofList (home.toList.reverse.dropWhile (· = '/')).reverse
    if bare = "" then "/" else bare

/-- The home directory: that of the session, or else that of the process. -/
def home (settings : Settings) : String :=
  (settings.environment.nonEmpty? "HOME").getD settings.inheritedHome

end Settings

/-- What running a line can change. -/
structure Machine where
  world : World
  console : Console := {}
  logger : Log.Logger := .silent
  running : Bool := true
  lastStatus : Int := 0
  deriving Repr

namespace Machine

def emit (machine : Machine) (record : Log.Record) : Machine :=
  match machine.logger.deliver record with
  | .dropped => machine
  | .toConsole data => { machine with console := machine.console.log data }
  | .toFile location data =>
    { machine with world := { machine.world with
        files := machine.world.files.appendAt location data } }

def emitAll (machine : Machine) (records : List Log.Record) : Machine :=
  records.foldl emit machine

/-- Remove an entry, as another program may do. Whoever holds something at or below it
loses it. -/
def removeEntry (machine : Machine) (location : Location) : Machine :=
  { machine with
    world := { files := machine.world.files.remove location
               directory := machine.world.directory.afterRemoval location }
    logger := machine.logger.afterRemoval location }

end Machine

abbrev Action := ExceptT Fault (StateM Machine)

namespace Action

def log (record : Log.Record) : Action Unit := modify (·.emit record)

def logAll (records : List Log.Record) : Action Unit := modify (·.emitAll records)

def write (data : Bytes) : Action Unit :=
  modify fun machine => { machine with console := machine.console.write data }

def writeError (data : Bytes) : Action Unit :=
  modify fun machine => { machine with console := machine.console.writeError data }

def inherit (output errors : Bytes) : Action Unit :=
  modify fun machine => { machine with console := machine.console.inherit output errors }

def reportLine (text : String) : Action Unit := writeError (Bytes.ofText (text ++ "\n"))

def writeTo : Stream → Bytes → Action Unit
  | .output, data => write data
  | .error, data => writeError data

def inspect {α : Type} (question : World → α) : Action α := do
  return question (← get).world

def setWorld (world : World) : Action Unit := modify fun machine => { machine with world }

def ofExcept {α : Type} : Except Fault α → Action α
  | .ok value => pure value
  | .error fault => throw fault

end Action

end CommandShell
