import CommandShell.Text.Fields

/-! Paths as text and as sequences of names. The text functions cut and join paths
without asking the file system; only `Path.ofText` prepares a path for a walk. -/

namespace CommandShell

/-- A path as the system walks it. The names include `.` and `..`. -/
structure Path where
  absolute : Bool
  names : List String
  /-- Whether a slash follows the last name, which then has to be a directory. -/
  endsInSlash : Bool
  deriving DecidableEq, Repr

namespace Path

/-- Take a path apart. Repeated slashes count as one. -/
def ofText (text : String) : Path :=
  let names := Text.filledFields '/' text
  { absolute := text.toList.head? = some '/'
    names
    endsInSlash := !names.isEmpty && text.toList.getLast? = some '/' }

/-- Drop the slashes at the end of a path, unless there is nothing else. -/
def dropEndSlashes (chars : List Char) : List Char :=
  if chars.all (· = '/') then chars else (chars.reverse.dropWhile (· = '/')).reverse

/-- Cut a path before its last name: the directory part, and the name after the last
slash. A path that ends in a slash has an empty name. -/
def cut (text : String) : String × String :=
  let reversed := text.toList.reverse
  let name := (reversed.takeWhile (· ≠ '/')).reverse
  let before := (reversed.dropWhile (· ≠ '/')).reverse
  (String.ofList (dropEndSlashes before), String.ofList name)

def directoryPart (text : String) : String := (cut text).1

/-- Put a name after a directory. An absolute name replaces the directory. -/
def join (directory name : String) : String :=
  if name.toList.head? = some '/' then name
  else if directory = "" || directory.toList.getLast? = some '/' then directory ++ name
  else directory ++ "/" ++ name

/-- The slashes that start a path. Exactly two are kept, as the standard allows them
a meaning of their own; any other number counts as one. -/
def root (text : String) : String :=
  match (text.toList.takeWhile (· = '/')).length with
  | 0 => ""
  | 2 => "//"
  | _ => "/"

/-- Resolve `..` by the names alone. Above the start of a relative path it stays, and
above the root there is nothing. -/
def collapse (absolute : Bool) (names : List String) : List String :=
  (names.foldl (fun taken name =>
    if name = "." then taken
    else if name ≠ ".." then name :: taken
    else match taken with
      | [] => if absolute then [] else [".."]
      | ".." :: _ => ".." :: taken
      | _ :: before => before) []).reverse

/-- A path written with its root and single slashes; the empty path is a dot. -/
def write (root : String) (names : List String) : String :=
  let text := root ++ "/".intercalate names
  if text = "" then "." else text

def normalize (text : String) : String :=
  let root := root text
  write root (collapse (root ≠ "") (ofText text).names)

end Path

end CommandShell
