import CommandShell.Fault
import CommandShell.FileSystem.Resolve
import CommandShell.FileSystem.Walk
import CommandShell.Redirection

/-! The files and the working directory, and the requests that the shell makes of
them. A request that fails leaves the world as it was; only the making of several
directories can stop halfway. -/

namespace CommandShell

structure World where
  files : FileSystem
  directory : Place
  deriving Repr

namespace World

/-- A path given to the system must not hold the character that ends it there. -/
def hasNull (text : String) : Bool := text.toList.contains '\x00'

def find (world : World) (path : String) (goal : WalkGoal) : Except SystemCause Found :=
  world.files.walk world.directory path goal

/-- Whether a path stands for a location that must not be opened. It does not matter what
is there, or whether there is anything. -/
def denies (world : World) (path : String) : Bool :=
  !world.files.denied.isEmpty &&
    (world.files.resolve world.directory path).any world.files.denied.contains

def request {α : Type} (path : String) (answer : Except SystemCause α) : Except Fault α :=
  if hasNull path then .error .nullCharacter
  else answer.mapError fun cause => .system ⟨cause, some path⟩

def requestToOpen {α : Type} (world : World) (path : String) (answer : Except SystemCause α) :
    Except Fault α :=
  request path (if world.denies path then .error .accessDenied else answer)

/-- Whether a path names a regular file. Every failure counts as no. -/
def isFile (world : World) (path : String) : Bool :=
  !hasNull path && match world.find path .entry with
    | .ok (.file _ _) => true
    | _ => false

def isExecutableFile (world : World) (path : String) : Bool :=
  !hasNull path && match world.find path .entry with
    | .ok (.file _ file) => file.executable
    | _ => false

def isDirectory (world : World) (path : String) : Bool :=
  !hasNull path && match world.find path .entry with
    | .ok (.directory _) => true
    | _ => false

def hasEntry (world : World) (path : String) : Bool :=
  !hasNull path && match world.find path .entry with
    | .ok (.file _ _) | .ok (.directory _) => true
    | _ => false

def readFile (world : World) (path : String) : Except Fault Bytes :=
  world.requestToOpen path <| match world.find path .entry with
    | .error cause => .error cause
    | .ok (.directory _) => .error .isDirectory
    | .ok (.file _ file) => .ok file.bytes
    | .ok (.link _) | .ok (.vacant _ _) => .error .noSuchEntry

def written (mode : WriteMode) (before : Transcript) (data : Bytes) : Transcript :=
  match mode with
  | .overwrite => .ofBytes data
  | .append => before.add data

def withEntry (world : World) (location : Location) (entry : Entry) : World :=
  { world with files := world.files.set location entry }

def addEntry (world : World) (place : Place) (name : String) (entry : Entry) :
    Except SystemCause World :=
  if !place.isLive then .error .noSuchEntry
  else if !world.files.isOwned place.location then .error .accessDenied
  else .ok (world.withEntry (name :: place.location) entry)

/-- Write to a file, which is made if there is none. The answer tells where it lies. -/
def openAndWrite (world : World) (path : String) (mode : WriteMode) (data : Bytes) :
    Except Fault (World × Location) :=
  world.requestToOpen path <| match world.find path .write with
    | .error cause => .error cause
    | .ok (.directory _) => .error .isDirectory
    | .ok (.file location file) =>
      let content := written mode file.content data
      .ok (world.withEntry location (.file { file with content }), location)
    | .ok (.link _) => .error .noSuchEntry
    | .ok (.vacant place name) =>
      (world.addEntry place name (.file ⟨.ofBytes data, false⟩)).map fun made =>
        (made, name :: place.location)

def writeFile (world : World) (path : String) (mode : WriteMode) (data : Bytes) :
    Except Fault World :=
  (world.openAndWrite path mode data).map (·.1)

def linkTarget? (world : World) (path : String) : Option String :=
  match world.find path .name with
  | .ok (.link location) =>
    match world.files.get? location with
    | some (.link target) => some target
    | _ => none
  | _ => none

/-- Put a new file in place of whatever file or link a path names. The new file is made
under an interim path first, which has to be possible. Links at the end of the path are
not followed. -/
def replaceFile (world : World) (interim path : String) (data : Bytes) : Except Fault World := do
  let _ ← world.writeFile interim .overwrite data
  request path <| match world.find path .name with
    | .error cause => .error cause
    | .ok (.directory _) => .error .isDirectory
    | .ok (.file location _) | .ok (.link location) =>
      .ok (world.withEntry location (.file ⟨.ofBytes data, false⟩))
    | .ok (.vacant place name) => world.addEntry place name (.file ⟨.ofBytes data, false⟩)

/-- Make one directory. A link counts as an entry, whatever it leads to. -/
def makeDirectory (world : World) (path : String) : Except Fault World :=
  request path <| match world.find path .name with
    | .error cause => .error cause
    | .ok (.directory _) | .ok (.file _ _) | .ok (.link _) => .error .entryExists
    | .ok (.vacant place name) => world.addEntry place name .directory

/-- Make a directory that may exist already. Any refusal is ignored where there is a
directory. -/
def ensureDirectory (world : World) (path : String) : World × Except Fault Unit :=
  match world.makeDirectory path with
  | .ok made => (made, .ok ())
  | .error (.system error) =>
    (world, if world.isDirectory path then .ok () else .error (.system error))
  | .error fault => (world, .error fault)

/-- The directory around a path and the name in it. Slashes at the end are passed over. -/
def parentAndName (path : String) : String × String :=
  let (parent, name) := Path.cut path
  if name = "" then Path.cut parent else (parent, name)

def isEntryExists : Fault → Bool
  | .system error => error.cause = .entryExists
  | _ => false

def maxDirectories : Nat := 985

/-- Make a directory and those around it, the outer ones first, at most `depth` of
them. That something is in the way of an outer one shows when the inner one is made. -/
def ensureDirectoriesWithin : (depth : Nat) → World → String → World × Except Fault Unit
  | 0, world, _ => (world, .error .targetTooDeep)
  | depth + 1, world, path =>
    let (parent, name) := parentAndName path
    if parent = "" || name = "" || world.hasEntry parent then world.ensureDirectory path
    else
      let (made, result) := ensureDirectoriesWithin depth world parent
      match result with
      | .error fault =>
        if !isEntryExists fault then (made, .error fault)
        else if name = "." then (made, .ok ()) else made.ensureDirectory path
      | .ok () => if name = "." then (made, .ok ()) else made.ensureDirectory path

def ensureDirectories (world : World) (path : String) : World × Except Fault Unit :=
  ensureDirectoriesWithin maxDirectories world path

def changeDirectory (world : World) (path : String) : Except Fault World :=
  world.requestToOpen path <| match world.find path .entry with
    | .error cause => .error cause
    | .ok (.directory place) => .ok { world with directory := place }
    | .ok (.file _ _) => .error .notDirectory
    | .ok (.link _) | .ok (.vacant _ _) => .error .noSuchEntry

/-- The path of the working directory. A removed directory has none. -/
def workingDirectory (world : World) : Except Fault String :=
  if world.directory.isLive then .ok world.directory.path
  else .error (.system ⟨.noSuchEntry, none⟩)

/-- The names in a directory. One that has been removed is empty. -/
def listDirectory (world : World) (path : String) : Except Fault (List String) :=
  world.requestToOpen path <| match world.find path .entry with
    | .error cause => .error cause
    | .ok (.directory place) =>
      .ok (if place.isLive then world.files.namesIn place.location else [])
    | .ok (.file _ _) => .error .notDirectory
    | .ok (.link _) | .ok (.vacant _ _) => .error .noSuchEntry

end World

end CommandShell
