import CommandShell.Bytes
import CommandShell.Log.Level
import CommandShell.Log.Moment
import CommandShell.SystemError

/-! Log records and the line that is written for each. The names of loggers start
with the name of the shell, and a line shows only the part of it that wrote. -/

namespace CommandShell.Log

structure Incident where
  label : String
  text : String
  /-- Whether the way of the failure through the program was recorded. -/
  traced : Bool
  deriving DecidableEq, Repr

namespace Incident

def ofSystemError (error : SystemError) : Incident := ⟨error.cause.label, error.message, true⟩

def render (incident : Incident) : String :=
  (if incident.traced then "Traceback (most recent call last):\n" else "") ++ incident.label ++
    if incident.text = "" then "" else ": " ++ incident.text

end Incident

structure Record where
  logger : String
  level : Int
  message : String
  incident : Option Incident := none
  deriving DecidableEq, Repr

namespace Record

def shellLogger : String := "pyshell"

def debug (part message : String) : Record :=
  { logger := shellLogger ++ "." ++ part, level := Level.debug, message }

def warning (part message : String) : Record :=
  { logger := shellLogger ++ "." ++ part, level := Level.warning, message }

/-- The part of the program that a logger's name tells: what follows the first dot,
or the whole name. -/
def part (name : String) : String :=
  match name.toList.dropWhile (· ≠ '.') with
  | [] => name
  | _ :: rest => String.ofList rest

def paddedRight (width : Nat) (text : String) : String :=
  text ++ String.ofList (List.replicate (width - text.length) ' ')

/-- The line of a record that was made at a moment, without its line end. An incident follows on
lines of its own. -/
def render (record : Record) (moment : Moment) : String :=
  "[" ++ moment.stamp ++ "] " ++ paddedRight 8 (Level.display record.level) ++ " [" ++
    part record.logger ++ "] " ++ record.message ++
    match record.incident with
    | none => ""
    | some incident => "\n" ++ incident.render

end Record

end CommandShell.Log
