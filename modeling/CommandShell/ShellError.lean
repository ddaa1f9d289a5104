import CommandShell.Text.Quoted

/-! Errors that end a single command line or stop the shell from starting. Each one
is a cause; the line printed for it is computed by `ShellError.message`. -/

namespace CommandShell

inductive ConfigProblem where
  | notBoolean (setting value : String)
  | notInteger (setting value : String)
  | unknownLevel (value : String)
  deriving DecidableEq, Repr

inductive ShellError where
  | config (problem : ConfigProblem)
  | unterminatedQuote (quote : String)
  | redirectionSyntax (operator unexpected : String)
  | redirectionWrite (command target reason : String)
  | commandNotFound (name : String)
  deriving DecidableEq, Repr

def ConfigProblem.message : ConfigProblem → String
  | notBoolean setting value => setting ++ ": expected a boolean, got " ++ Text.quoted value
  | notInteger setting value => setting ++ ": expected an integer, got " ++ Text.quoted value
  | unknownLevel value => "unknown log level: " ++ Text.quoted value

namespace ShellError

def message : ShellError → String
  | config problem => problem.message
  | unterminatedQuote quote =>
    if quote = "\\" then "syntax error: unexpected end of input after escape"
    else "syntax error: unexpected end of input, missing closing " ++ quote
  | redirectionSyntax operator unexpected =>
    "syntax error near unexpected token `" ++ unexpected ++ "' after " ++ operator
  | redirectionWrite command target reason => command ++ ": " ++ target ++ ": " ++ reason
  | commandNotFound name => name ++ ": command not found"

end ShellError

end CommandShell
