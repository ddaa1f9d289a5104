import CommandShell.ShellError
import CommandShell.Fault
import CommandShell.Text.Integer
import CommandShell.Text.LetterCase

/-! Levels of log records: numbers, some of which have names. A higher level is more
urgent. -/

namespace CommandShell.Log.Level

def warning : Int := 30

def debug : Int := 10

/-- The names by which a level can be asked for. Two levels have two names. -/
def names : List (String × Int) :=
  [("CRITICAL", 50), ("FATAL", 50), ("ERROR", 40), ("WARN", 30), ("WARNING", 30), ("INFO", 20),
   ("DEBUG", 10), ("NOTSET", 0)]

def display (level : Int) : String :=
  if level = 50 then "CRITICAL"
  else if level = 40 then "ERROR"
  else if level = 30 then "WARNING"
  else if level = 20 then "INFO"
  else if level = 10 then "DEBUG"
  else if level = 0 then "NOTSET"
  else "Level " ++ toString level

/-- Read a level, by name in any letter case or by number. A text that shows nothing
but digits is taken as a number, even where its digits do not make one. -/
def parse (text : String) : Except Fault Int :=
  let value := Text.strip text
  if value ≠ "" && value.toList.all Text.showsDigit then
    (Text.readInteger value).mapError (.numeral value)
  else match names.lookup (Text.capitals value) with
    | some level => .ok level
    | none => .error (.shell (.config (.unknownLevel value)))

end CommandShell.Log.Level
