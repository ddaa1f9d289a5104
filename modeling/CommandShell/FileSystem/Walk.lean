import CommandShell.FileSystem.Entry
import CommandShell.FileSystem.Path
import CommandShell.SystemError

/-! The walk along a path. It goes from name to name, follows links on the way, and
ends at a directory, a file, a link, or a name that is still free. At most forty
links are followed, so every walk ends. -/

namespace CommandShell

/-- A directory to start from. It may have been removed since it was entered; its
outer directories can still be reached by `..`. -/
structure Place where
  location : Location
  /-- How many of the innermost names have been removed. -/
  lost : Nat := 0
  deriving DecidableEq, Repr

namespace Place

def root : Place := { location := [] }

/-- The directory around a place. The root is its own outer directory. -/
def outer : Place → Place
  | ⟨[], _⟩ => root
  | ⟨_ :: location, lost⟩ => ⟨location, lost - 1⟩

def inner (place : Place) (name : String) : Place := ⟨name :: place.location, place.lost⟩

def isLive (place : Place) : Bool := place.lost = 0

def afterRemoval (place : Place) (removed : Location) : Place :=
  if removed.isSuffixOf place.location then
    { place with lost := max place.lost (place.location.length - removed.length + 1) }
  else place

def path (place : Place) : String := "/" ++ "/".intercalate place.location.reverse

end Place

inductive WalkGoal where
  | entry
  /-- To write to a file. A link at the end is followed, and a slash after the last name
  is refused before the name is looked up, as it would make the name that of a directory. -/
  | write
  | name
  deriving DecidableEq, Repr

inductive Found where
  | directory (place : Place)
  | file (location : Location) (file : File)
  | link (location : Location)
  /-- Only the last name of the path is missing. -/
  | vacant (directory : Place) (name : String)
  deriving DecidableEq, Repr

/-- The location at the end of a walk. A removed directory has none. -/
def Found.location? : Found → Option Location
  | directory place => if place.isLive then some place.location else none
  | file location _ => some location
  | link location => some location
  | vacant place name => if place.isLive then some (name :: place.location) else none

namespace FileSystem

def maxNameLength : Nat := 255

def maxPathLength : Nat := 4096

def maxLinks : Nat := 40

/-- The entry of a name in a directory. A removed directory holds nothing. -/
def entryIn (files : FileSystem) (place : Place) (name : String) : Option Entry :=
  if place.isLive then files.get? (name :: place.location) else none

def linkStart (place : Place) (target : Path) : Place := if target.absolute then .root else place

/-- The answer for a file at the end of a path. A slash after it asks for a directory. -/
def atFile (goal : WalkGoal) (slash : Bool) (location : Location) (file : File) :
    Except SystemCause Found :=
  if slash && goal = .entry then .error .notDirectory else .ok (.file location file)

/-- Walk along names until a link has to be followed, and go on with `jump` there.
`slash` tells whether a slash follows the last name. -/
def walkUntilLink (files : FileSystem) (goal : WalkGoal)
    (jump : Bool → Place → List String → Except SystemCause Found) (slash : Bool) :
    Place → List String → Except SystemCause Found
  | place, [] => .ok (.directory place)
  | place, name :: rest =>
    if name = "." then files.walkUntilLink goal jump slash place rest
    else if name = ".." then files.walkUntilLink goal jump slash place.outer rest
    else if rest.isEmpty && slash && goal = .write then .error .isDirectory
    else if place.isLive && maxNameLength < byteLength name then .error .nameTooLong
    else match files.entryIn place name with
      | none => if rest.isEmpty then .ok (.vacant place name) else .error .noSuchEntry
      | some .directory => files.walkUntilLink goal jump slash (place.inner name) rest
      | some (.file file) =>
        if rest.isEmpty then atFile goal slash (name :: place.location) file
        else .error .notDirectory
      | some (.link target) =>
        let path := Path.ofText target
        let start := linkStart place path
        if !rest.isEmpty then jump slash start (path.names ++ rest)
        else if goal = .name then .ok (.link (name :: place.location))
        else jump (slash || path.endsInSlash) start path.names

/-- Walk along names, following at most `budget` links. -/
def walkWithin (files : FileSystem) (goal : WalkGoal) :
    (budget : Nat) → Bool → Place → List String → Except SystemCause Found
  | 0 => files.walkUntilLink goal fun _ _ _ => .error .tooManyLinks
  | budget + 1 => files.walkUntilLink goal (files.walkWithin goal budget)

def walk (files : FileSystem) (start : Place) (text : String) (goal : WalkGoal) :
    Except SystemCause Found :=
  if text = "" then .error .noSuchEntry
  else if maxPathLength ≤ byteLength text then .error .nameTooLong
  else
    let path := Path.ofText text
    files.walkWithin goal maxLinks path.endsInSlash
      (if path.absolute then .root else start) path.names

end FileSystem

end CommandShell
