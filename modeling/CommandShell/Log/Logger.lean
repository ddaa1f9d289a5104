import CommandShell.Config
import CommandShell.Console
import CommandShell.Log.Record
import CommandShell.World

/-! Where log records go. Setting a logger up takes its old destination away before
the new one is opened, so a logger whose setup fails has none. Records of some urgency
that find no destination still reach the error stream, as bare messages. -/

namespace CommandShell.Log

/-- A destination of records. A file may have been removed since it was opened. -/
inductive Sink where
  | file (location : Option Location)
  | console
  | nowhere
  deriving DecidableEq, Repr

structure Handler where
  sink : Sink
  level : Int
  deriving DecidableEq, Repr

structure Logger where
  /-- The level from which on records are written; zero leaves it to the default. -/
  level : Int := 0
  handler : Option Handler := none
  /-- Whether records also go to the destinations of all programs, of which there are none. -/
  propagates : Bool := true
  /-- When records are made. The clock stands still. -/
  moment : Moment := {}
  deriving DecidableEq, Repr

namespace Logger

def silent : Logger := { handler := some ⟨.nowhere, 0⟩, propagates := false }

def threshold (logger : Logger) : Int := if logger.level = 0 then Level.warning else logger.level

def isOfShell (name : String) : Bool :=
  name = Record.shellLogger || (Record.shellLogger ++ ".").toList.isPrefixOf name.toList

inductive Delivery where
  | dropped
  | toFile (location : Location) (data : Bytes)
  | toConsole (data : Bytes)
  deriving DecidableEq, Repr

def lastResort (record : Record) : Delivery :=
  if Level.warning ≤ record.level then .toConsole (Bytes.ofText (record.message ++ "\n"))
  else .dropped

/-- Decide about a record. Those of other loggers have no destination; for them the
default level counts. -/
def deliver (logger : Logger) (record : Record) : Delivery :=
  if record.level ≤ 0 then .dropped
  else if !isOfShell record.logger then lastResort record
  else if record.level < logger.threshold then .dropped
  else match logger.handler with
    | none => lastResort record
    | some handler =>
      if record.level < handler.level then .dropped
      else
        let line := Bytes.ofText (record.render logger.moment ++ "\n")
        match handler.sink with
        | .file (some location) => .toFile location line
        | .file none => .dropped
        | .console => .toConsole line
        | .nowhere => .dropped

def openFile? (logger : Logger) : Option Location :=
  match logger.handler with
  | some ⟨.file location, _⟩ => location
  | _ => none

/-- The logger after everything at and below a location has been removed. An open
file that is gone takes the records with it. -/
def afterRemoval (logger : Logger) (removed : Location) : Logger :=
  match logger.handler with
  | some ⟨.file (some location), level⟩ =>
    if removed.isSuffixOf location then { logger with handler := some ⟨.file none, level⟩ }
    else logger
  | _ => logger

end Logger

/-- The answer where a directory was refused. The refusal is ignored where there is a
directory, and a name too long to look for one is a refusal of its own. -/
def unlessDirectory (world : World) (path : String) (refusal : SystemError) : Except Fault Unit :=
  match world.find path .entry with
  | .ok (.directory _) => .ok ()
  | .error .nameTooLong => .error (.system ⟨.nameTooLong, some path⟩)
  | _ => .error (.system refusal)

def makeParent (world : World) (path : String) : World × Except Fault Unit :=
  match world.makeDirectory path with
  | .ok made => (made, .ok ())
  | .error (.system refusal) => (world, unlessDirectory world path refusal)
  | .error fault => (world, .error fault)

/-- Make a directory, with those around it, for a file to lie in, at most `depth` of them.
The names are those of the directory, the innermost first. -/
def makeParents (root : String) :
    (depth : Nat) → List String → World → World × Except Fault Unit
  | 0, _, world => (world, .error .logTooDeep)
  | _ + 1, [], world => makeParent world (Path.write root [])
  | depth + 1, name :: outer, world =>
    let path := Path.write root (name :: outer).reverse
    match world.makeDirectory path with
    | .ok made => (made, .ok ())
    | .error (.system refusal) =>
      if refusal.cause = .noSuchEntry then
        match makeParents root depth outer world with
        | (made, .ok ()) => makeParent made path
        | (made, .error fault) => (made, .error fault)
      else (world, unlessDirectory world path refusal)
    | .error fault => (world, .error fault)

/-- Open a log file, whose directory is made if there is none. The directory is found
along the path as given, the file by the path from the root with `..` resolved. -/
def openLog (world : World) (path : String) : World × Except Fault Location :=
  let root := Path.root path
  let names := (Path.ofText path).names.filter (· ≠ ".")
  match makeParents root World.maxDirectories names.dropLast.reverse world with
  | (made, .error fault) => (made, .error fault)
  | (made, .ok ()) =>
    let relative := Path.write root names
    let full : Except Fault String :=
      if (Path.ofText path).absolute then .ok relative
      else made.workingDirectory.map fun directory => Path.join directory relative
    match full.bind fun full => made.openAndWrite (Path.normalize full) .append [] with
    | .ok (opened, location) => (opened, .ok location)
    | .error fault => (made, .error fault)

/-- Set the logger up for a configuration. The destination depends on this
configuration alone, and old log files are kept and added to. -/
def setUp (logger : Logger) (config : Config) (world : World) :
    Logger × World × Except Fault Unit :=
  let bare : Logger := { logger with level := config.logLevel, handler := none, propagates := false }
  let handledBy (sink : Sink) : Logger := { bare with handler := some ⟨sink, config.logLevel⟩ }
  match config.logPath? with
  | none =>
    (handledBy (if config.logLevel < Level.warning then .console else .nowhere), world, .ok ())
  | some path =>
    match openLog world path with
    | (opened, .ok location) => (handledBy (.file (some location)), opened, .ok ())
    | (opened, .error fault) => (bare, opened, .error fault)

end CommandShell.Log
