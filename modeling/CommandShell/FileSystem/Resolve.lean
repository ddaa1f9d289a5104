import CommandShell.FileSystem.Walk

/-! The location that a path stands for, whether there is anything or not. Links are
followed where they are found, and other names are taken as they come. What a link leads
to is kept, so each one is followed once. Of a link that leads back to itself, the link
stays, and what follows it is resolved by the names alone. -/

namespace CommandShell

/-- A path without links in it, as far as is known. Its start is the root, the working
directory where `root` is empty, or a place of no tree where `root` is two slashes. -/
structure Spelling where
  root : String := ""
  /-- The names, the innermost first. Only a path from the working directory has `..`
  among them, and only at its start. -/
  names : List String := []
  deriving DecidableEq, Repr

namespace Spelling

def top : Spelling := { root := "/" }

def inner (path : Spelling) (name : String) : Spelling := { path with names := name :: path.names }

def outer (path : Spelling) : Spelling :=
  match path.names with
  | [] => if path.root = "" then path.inner ".." else path
  | name :: outer => if name = ".." then path.inner ".." else { path with names := outer }

def step (path : Spelling) (name : String) : Spelling :=
  if name = "" || name = "." then path
  else if name = ".." then path.outer
  else path.inner name

/-- Go on along the rest of a path, by the names alone. A rest that starts with a slash
is a path of its own. -/
def followedBy (path : Spelling) (rest : List String) : Spelling :=
  let root := Path.root ("/".intercalate rest)
  rest.foldl step (if root = "" then path else { root })

def place (path : Spelling) (start : Place) : Place :=
  path.names.foldr (fun name place => if name = ".." then place.outer else place.inner name)
    (if path.root = "" then start else .root)

/-- The location of a path. A path from a removed directory has none. -/
def location? (path : Spelling) (start : Place) : Option Location :=
  if path.root = "//" || (path.root = "" && !start.isLive) then none
  else some (path.place start).location

end Spelling

/-- The links that have been met, with what they lead to. That is not known while a link
is being followed. -/
abbrev KnownLinks := List (Spelling × Option Spelling)

structure Resolved where
  path : Spelling
  /-- Whether all links could be followed. -/
  complete : Bool
  known : KnownLinks

namespace FileSystem

/-- Resolve names from a directory on. `follow` resolves the target of a link as seen from
the directory around it. -/
def resolveNames (files : FileSystem) (start : Place)
    (follow : KnownLinks → Spelling → String → Resolved) :
    KnownLinks → Spelling → List String → Resolved
  | known, path, [] => ⟨path, true, known⟩
  | known, path, name :: rest =>
    if name = "" || name = "." || name = ".." then
      files.resolveNames start follow known (path.step name) rest
    else
      let named := path.inner name
      match files.entryIn (path.place start) name with
      | some (.link target) =>
        match known.lookup named with
        | some (some reached) => files.resolveNames start follow known reached rest
        | some none => ⟨named.followedBy rest, false, known⟩
        | none =>
          let found := follow ((named, none) :: known) path target
          if found.complete then
            files.resolveNames start follow ((named, some found.path) :: found.known) found.path rest
          else ⟨found.path.followedBy rest, false, found.known⟩
      | _ => files.resolveNames start follow known named rest

/-- Resolve a text as seen from a directory. `depth` is the most links that can be inside
one another. -/
def resolveWithin (files : FileSystem) (start : Place) :
    (depth : Nat) → KnownLinks → Spelling → String → Resolved
  | 0, known, directory, _ => ⟨directory, false, known⟩
  | depth + 1, known, directory, text =>
    files.resolveNames start (files.resolveWithin start depth) known
      (if Path.root text = "" then directory else .top)
      ((Text.fields '/' text.toList).map String.ofList)

/-- The location that a path stands for, as seen from a place. A link is inside others at
most once for each way to spell it: from the root, or over one of the directories around
the place. -/
def resolve (files : FileSystem) (start : Place) (text : String) : Option Location :=
  let depth := (files.entries.length + 1) * (start.location.length + 2)
  (files.resolveWithin start depth [] {} text).path.location? start

end FileSystem

end CommandShell
