import CommandShell.World

/-! The history file: one line for each command of earlier sessions. Lines are bytes,
and neither empty lines nor a last line without its end are kept. Times of commands may
stand on lines of their own; they are read over. A history is saved whole, and then the
file is cut to its last lines. -/

namespace CommandShell.History

def lineEnd : UInt8 := 0x0A

/-- A line as it is kept: without a carriage return at its end, and only up to a zero. -/
def tidy (line : Bytes) : Bytes :=
  let line := match line.reverse with
    | 0x0D :: before => before.reverse
    | _ => line
  line.takeWhile (· ≠ 0)

/-- The ended lines of a file. `current` is the start of a line, reversed. -/
def endedLines (current : Bytes) : Bytes → List Bytes
  | [] => []
  | byte :: rest =>
    if byte = lineEnd then current.reverse :: endedLines [] rest
    else endedLines (byte :: current) rest

def startsWithMarked (mark : UInt8) : Bytes → Bool
  | first :: second :: _ => first = mark && 0x30 ≤ second && second ≤ 0x39
  | _ => false

def timeMark : UInt8 := 0x23

/-- The lines that a file keeps. Only a file that starts with a time has times. -/
def parse (data : Bytes) : List Bytes :=
  let timed := startsWithMarked timeMark data
  ((endedLines [] data).map tidy).filter fun line =>
    !line.isEmpty && !(timed && startsWithMarked timeMark line)

def render (lines : List Bytes) : Bytes := lines.flatMap fun line => line ++ [lineEnd]

/-- Read the history. The system's refusals come without the path. -/
def read (world : World) (path : String) : Except Fault (List Bytes) :=
  match world.find path .entry with
  | .ok (.directory _) =>
    if World.hasNull path then .error .nullCharacter
    else .error (.system ⟨.invalidArgument, none⟩)
  | _ => match world.readFile path with
    | .ok data => .ok (parse data)
    | .error (.system error) => .error (.system ⟨error.cause, none⟩)
    | .error fault => .error fault

/-- Go back in a file until as many line ends as are to be kept have been passed, and
then to the line end before. `kept` is what has been passed, and the bytes before it come
in reverse. The first byte of a file is never looked at, and a line end before a zero and
a digit does not count. -/
def lastLinesFrom : (count : Nat) → (kept : Bytes) → (before : Bytes) → Option Bytes
  | _, _, [] | _, _, [_] => none
  | count, kept, byte :: earlier =>
    if byte = lineEnd && !startsWithMarked 0 kept then
      match count with
      | 0 => some kept
      | count + 1 => lastLinesFrom count (byte :: kept) earlier
    else lastLinesFrom count (byte :: kept) earlier

/-- The last lines of a file that has more of them. Lines count whether they are empty
or not, and those that are kept stay as they are. -/
def lastLines? (count : Nat) (data : Bytes) : Option Bytes := lastLinesFrom count [] data.reverse

def interimSuffix : String := "-00000.tmp"

/-- Put a new file in place of a history file. It is made beside the old one, under a
longer name, and then takes its name. A link is not followed through the file system:
what it spells is taken as seen from the working directory. -/
def replace (world : World) (path : String) (data : Bytes) : Except Fault World :=
  let target := (world.linkTarget? path).getD path
  world.replaceFile (target ++ interimSuffix) target data

/-- Write a history file. One that exists is replaced. -/
def write (world : World) (path : String) (data : Bytes) : Except Fault World :=
  if world.isFile path then replace world path data else world.writeFile path .overwrite data

/-- Cut a history file to its last lines. Where that fails, it stays as it is. -/
def shorten (world : World) (path : String) (count : Nat) : World :=
  match world.readFile path with
  | .error _ => world
  | .ok data =>
    match lastLines? count data with
    | none => world
    | some kept => (replace world path kept).toOption.getD world

/-- Save the history. A negative size keeps all lines. -/
def save (world : World) (path : String) (lines : List Bytes) (size : Int) : Except Fault World :=
  match write world path (render lines) with
  | .ok written => .ok (if size < 0 then written else shorten written path size.toNat)
  | .error (.system error) => .error (.system ⟨error.cause, none⟩)
  | .error fault => .error fault

def fits (size : Int) : Bool := -2147483648 ≤ size && size ≤ 2147483647

end CommandShell.History
