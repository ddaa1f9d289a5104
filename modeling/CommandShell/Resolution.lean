import CommandShell.Log.Record
import CommandShell.World

/-! What a command name stands for. Builtins come before everything else, a name with
a slash is a path, and any other name is looked for along the search path. -/

namespace CommandShell

inductive Builtin where
  | exit
  | echo
  | type
  | pwd
  | cd
  | cat
  | help
  | clear
  deriving DecidableEq, Repr

namespace Builtin

def all : List Builtin := [exit, echo, type, pwd, cd, cat, help, clear]

def name : Builtin → String
  | exit => "exit"
  | echo => "echo"
  | type => "type"
  | pwd => "pwd"
  | cd => "cd"
  | cat => "cat"
  | help => "help"
  | clear => "clear"

def symbol : Builtin → String
  | exit => "EXIT"
  | echo => "ECHO"
  | type => "TYPE"
  | pwd => "PWD"
  | cd => "CD"
  | cat => "CAT"
  | help => "HELP"
  | clear => "CLEAR"

def names : List String := all.map name

/-- The builtin of a name. Letter case counts. -/
def ofName? (name : String) : Option Builtin := all.find? fun builtin => builtin.name = name

end Builtin

inductive Resolution where
  | builtin (command : Builtin)
  | program (path : String)
  | notFound (name : String)
  deriving DecidableEq, Repr

namespace Resolution

def describe : Resolution → String
  | builtin command =>
    "Builtin(kind=<BuiltinKind." ++ command.symbol ++ ": " ++ Text.quoted command.name ++ ">)"
  | program path => "External(path=" ++ Text.quoted path ++ ")"
  | notFound name => "NotFound(name=" ++ Text.quoted name ++ ")"

def record (name : String) (resolution : Resolution) : Log.Record :=
  .debug "resolver" ("resolved " ++ Text.quoted name ++ " -> " ++ resolution.describe)

end Resolution

/-- The directories of a search path, in order. Empty entries are left out, so none
of them stands for the working directory. -/
def searchDirectories (path : String) : List String := Text.filledFields ':' path

namespace World

/-- The first file of a name along directories. The execute bit is not looked at; a
file without it fails when it is started. -/
def findAlong (world : World) (name : String) (directories : List String) : Option String :=
  (directories.map (Path.join · name)).find? world.isFile

def findProgram (world : World) (name path : String) : Option String :=
  world.findAlong name (searchDirectories path)

def resolve (world : World) (name path : String) : Resolution :=
  match Builtin.ofName? name with
  | some builtin => .builtin builtin
  | none =>
    if name.toList.contains '/' then
      if world.isFile name then .program name else .notFound name
    else match world.findProgram name path with
      | some found => .program found
      | none => .notFound name

def programsIn (world : World) (directory : String) : Except Fault (List String) :=
  (world.listDirectory directory).map fun names =>
    names.filter fun name => world.isExecutableFile (Path.join directory name)

def skippedRecord (directory : String) (error : SystemError) : Log.Record :=
  .debug "resolver" ("skipping unreadable PATH entry " ++ directory ++ ": " ++ error.message)

/-- The names of the programs in directories, repeats included. Directories that cannot
be listed are passed over with a record. -/
def programsAlong (world : World) : List String → List Log.Record × Except Fault (List String)
  | [] => ([], .ok [])
  | directory :: later =>
    match world.programsIn directory with
    | .ok found =>
      let (records, rest) := world.programsAlong later
      (records, rest.map (found ++ ·))
    | .error (.system error) =>
      let (records, rest) := world.programsAlong later
      (skippedRecord directory error :: records, rest)
    | .error fault => ([], .error fault)

def programNames (world : World) (path : String) : List Log.Record × Except Fault (List String) :=
  world.programsAlong (searchDirectories path)

/-- Every name that can be run: the builtins, and the programs on the search path. -/
def commandNames (world : World) (path : String) : List Log.Record × Except Fault (List String) :=
  let (records, found) := world.programNames path
  (records, found.map (Builtin.names ++ ·))

theorem commandNames_eq (world : World) (path : String) : world.commandNames path =
    ((world.programsAlong (searchDirectories path)).1,
      (world.programsAlong (searchDirectories path)).2.map (Builtin.names ++ ·)) := rfl

end World

end CommandShell
