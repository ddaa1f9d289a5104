import CommandShell.ShellError
import CommandShell.SystemError
import CommandShell.Text.Integer

/-! Everything that can end an action early. Errors of the shell and of the system
are reported by whoever runs a line; the other faults pass through to the caller. -/

namespace CommandShell

/-- What can end an action early. -/
inductive Fault where
  | shell (error : ShellError)
  | system (error : SystemError)
  /-- A text for the system holds the character zero, which ends a text there. -/
  | nullCharacter
  | variableName
  /-- A text that has to be a whole number is none. -/
  | numeral (text : String) (error : Text.NumeralError)
  /-- A size does not fit the thirty-two bits of the history library. -/
  | sizeRange
  /-- A program was started without an argument for its own name. -/
  | missingName
  /-- Too many directories would have to be made one inside another for the target of a
  redirection. -/
  | targetTooDeep
  /-- Too many directories would have to be made one inside another for a log file. -/
  | logTooDeep
  deriving DecidableEq, Repr

namespace Fault

/-- The explanation of a fault. A displayed numeral is cut after two hundred
characters. -/
def message : Fault → String
  | shell error => error.message
  | system error => error.message
  | nullCharacter => "embedded null byte"
  | variableName => "illegal environment variable name"
  | numeral text .malformed =>
    "invalid literal for int() with base 10: " ++
      String.ofList ((Text.quoted text).toList.take 200)
  | numeral _ (.tooLong digits) =>
    "Exceeds the limit (" ++ toString Text.maxDigits ++
      " digits) for integer string conversion: value has " ++ toString digits ++
      " digits; use sys.set_int_max_str_digits() to increase the limit"
  | sizeRange => "Python int too large to convert to C int"
  | missingName => "list index out of range"
  | targetTooDeep => "maximum recursion depth exceeded"
  | logTooDeep => "maximum recursion depth exceeded while calling a Python object"

end Fault

end CommandShell
