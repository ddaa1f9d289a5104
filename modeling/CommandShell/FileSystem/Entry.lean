import CommandShell.Text.Fields
import CommandShell.Transcript

/-! The tree of directories, files and links, kept as a table from locations to
entries. A location lists the names on the way to the root, the innermost first, so
the directory around an entry is the tail of its location. -/

namespace CommandShell

structure File where
  content : Transcript
  executable : Bool := false
  deriving DecidableEq, Repr

def File.bytes (file : File) : Bytes := file.content.toBytes

inductive Entry where
  | directory
  | file (file : File)
  | link (target : String)
  deriving DecidableEq, Repr

/-- The names from an entry up to the root, the innermost first. -/
abbrev Location := List String

/-- A location with its depth. Locations are stored in this form, so that those of
different depths are told apart at once. -/
abbrev DeepLocation := Nat × Location

/-- A tree of entries. -/
structure FileSystem where
  /-- The directory that the user owns. It always exists, and entries can be made
  only in it and below. -/
  owned : Location
  entries : List (DeepLocation × Entry) := []
  /-- Files and directories that must not be opened or entered. -/
  denied : List Location := []
  deriving Repr

namespace FileSystem

/-- The entry at a location. The directories that lead to the owned one always exist. -/
def get? (files : FileSystem) (location : Location) : Option Entry :=
  let depth := location.length
  if depth ≤ files.owned.length && location.isSuffixOf files.owned then some .directory
  else files.entries.lookup (depth, location)

def set (files : FileSystem) (location : Location) (entry : Entry) : FileSystem :=
  let place : DeepLocation := (location.length, location)
  { files with entries := (place, entry) :: files.entries.filter (·.1 ≠ place) }

def remove (files : FileSystem) (location : Location) : FileSystem :=
  { files with entries := files.entries.filter fun entry => !location.isSuffixOf entry.1.2 }

def namesIn (files : FileSystem) (location : Location) : List String :=
  files.entries.filterMap fun entry =>
    match entry.1.2 with
    | name :: directory => if directory = location then some name else none
    | [] => none

def isOwned (files : FileSystem) (location : Location) : Bool := files.owned.isSuffixOf location

/-- Put bytes after the content of a file. Where there is no file any more, they are lost. -/
def appendAt (files : FileSystem) (location : Location) (data : Bytes) : FileSystem :=
  match files.get? location with
  | some (.file file) =>
    files.set location (.file { file with content := file.content.add data })
  | _ => files

def setDirectories (files : FileSystem) : Location → FileSystem
  | [] => files
  | name :: outer =>
    let made := files.setDirectories outer
    match made.get? (name :: outer) with
    | none => made.set (name :: outer) .directory
    | some _ => made

end FileSystem

end CommandShell
