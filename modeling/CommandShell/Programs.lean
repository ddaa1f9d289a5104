import CommandShell.Environment
import CommandShell.World

/-! Programs that are no part of the shell. Which files the system can execute by itself, and
what a program does, is left open. A program may look at all files, and it may tell whether its
output is kept back. It leaves the files as they are, and reads nothing that is typed. -/

namespace CommandShell

/-- What a program, or a builtin in its place, has written, and the status it ended
with. A program that dies of a signal has the negative signal as status. -/
structure Outcome where
  output : Bytes := []
  errors : Bytes := []
  status : Int := 0
  deriving DecidableEq, Repr

/-- A program that the system has started from a file. -/
structure StartedProgram where
  file : File
  argv : List Bytes
  environment : Environment
  deriving DecidableEq, Repr

/-- What a program can see of a world. The order in which a directory lists its names is none of
it. -/
structure View where
  entry? : Location → Option Entry
  denied : List Location
  directory : Place

def World.view (world : World) : View :=
  { entry? := world.files.get?, denied := world.files.denied, directory := world.directory }

structure Programs where
  /-- Whether the system executes a file with these bytes by itself. -/
  isImage : Bytes → Bool := fun _ => false
  /-- What a program writes, and how it ends. -/
  conduct : StartedProgram → View → (captured : Bool) → Outcome := fun _ _ _ => {}

end CommandShell
